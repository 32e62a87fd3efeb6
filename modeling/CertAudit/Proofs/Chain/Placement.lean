/- The entries put into a chain and those left outside it. Each given entry ends up in exactly one
of the two, and all but its position and its part stays as it was. -/
import CertAudit.Proofs.Chain.Walk
namespace CertAudit

/-- An entry without its place in a chain. -/
def ChainEntry.unplaced (e : ChainEntry) : ChainEntry := { e with position := 0, role := .leaf }

namespace Chain

/-- The entries at some places. -/
def pick (entries : List ChainEntry) (places : List Nat) : List ChainEntry :=
  places.filterMap fun i => entries[i]?

variable {entries : List ChainEntry} {places : List Nat}

theorem pick_cons {i : Nat} (hi : i < entries.length) (places : List Nat) :
    pick entries (i :: places) = entries[i] :: pick entries places := by
  simp only [pick, List.filterMap_cons, List.getElem?_eq_getElem hi]

/-- Places within a list keep their order and number. -/
theorem map_some_pick (h : ∀ i ∈ places, i < entries.length) :
    (pick entries places).map some = places.map fun i => entries[i]? := by
  induction places with
  | nil => rfl
  | cons i places ih =>
    have hi := h i List.mem_cons_self
    rw [pick_cons hi, List.map_cons, List.map_cons, List.getElem?_eq_getElem hi,
      ih fun j hj => h j (List.mem_cons_of_mem i hj)]

theorem pick_getElem? (h : ∀ i ∈ places, i < entries.length) (k : Nat) :
    (pick entries places)[k]? = places[k]?.bind fun i => entries[i]? := by
  induction places generalizing k with
  | nil => rfl
  | cons i places ih =>
    rw [pick_cons (h i List.mem_cons_self)]
    cases k with
    | zero => simp [List.getElem?_eq_getElem (h i List.mem_cons_self)]
    | succ k =>
      simp only [List.getElem?_cons_succ]
      exact ih (fun j hj => h j (List.mem_cons_of_mem i hj)) k

/-- Filtering numbered entries by their numbers picks the entries at the numbers kept. -/
theorem map_fst_filter_zipIdx (entries : List ChainEntry) (keep : Nat → Bool) :
    (entries.zipIdx.filter fun x => keep x.2).map Prod.fst =
      pick entries ((List.range entries.length).filter keep) := by
  have hpairs : ∀ pairs : List (ChainEntry × Nat), (∀ x ∈ pairs, entries[x.2]? = some x.1) →
      (pairs.filter fun x => keep x.2).map Prod.fst =
        pick entries ((pairs.map Prod.snd).filter keep) := by
    intro pairs
    induction pairs with
    | nil => exact fun _ => rfl
    | cons x pairs ih =>
      intro h
      have hrest := ih fun y hy => h y (List.mem_cons_of_mem x hy)
      cases hx : keep x.2 with
      | true => simp [hx, pick, h x List.mem_cons_self] at hrest ⊢; exact hrest
      | false => simpa [hx] using hrest
  have hsnd : entries.zipIdx.map Prod.snd = List.range entries.length := by
    rw [List.zipIdx_map_snd, List.range_eq_range']
  rw [hpairs entries.zipIdx fun x hx => List.mem_zipIdx_iff_getElem?.mp hx, hsnd]

theorem pick_range (entries : List ChainEntry) :
    pick entries (List.range entries.length) = entries := by
  have h := map_fst_filter_zipIdx entries fun _ => true
  rw [List.filter_true, List.filter_true, List.zipIdx_map_fst] at h
  exact h.symm

/-- Where an entry stood before does not count for where it is put. -/
theorem place_congr {e given : ChainEntry} (h : given.unplaced = e.unplaced) (length position : Nat) :
    place length position given = place length position e := by
  have hplace : ∀ entry : ChainEntry,
      place length position entry = place length position entry.unplaced := fun _ => rfl
  rw [hplace given, h, ← hplace e]

theorem along_eq_pick (places : List Nat) (entries : List ChainEntry) :
    along places entries = (pick entries places).zipIdx.map fun x => place places.length x.2 x.1 :=
  rfl

/-- An entry of a chain is the one given at its place, put where it stands. -/
theorem eq_place_of_along (h : ∀ i ∈ places, i < entries.length) {k : Nat} {e : ChainEntry}
    (he : (along places entries)[k]? = some e) :
    ∃ i given, places[k]? = some i ∧ entries[i]? = some given ∧
      e = place places.length k given := by
  rw [along_eq_pick, List.getElem?_map, List.getElem?_zipIdx, pick_getElem? h, Option.map_map,
    Nat.zero_add] at he
  obtain ⟨given, hgiven, rfl⟩ := Option.map_eq_some_iff.mp he
  obtain ⟨i, hi, hentry⟩ := Option.bind_eq_some_iff.mp hgiven
  exact ⟨i, given, hi, hentry, rfl⟩

theorem map_unplaced_along (places : List Nat) (entries : List ChainEntry) :
    (along places entries).map ChainEntry.unplaced =
      (pick entries places).map ChainEntry.unplaced := by
  conv_rhs => rw [← List.zipIdx_map_fst 0 (pick entries places)]
  rw [along_eq_pick, List.map_map, List.map_map]
  rfl

theorem outside_eq_pick (places : List Nat) (entries : List ChainEntry) :
    outside places entries = (pick entries ((List.range entries.length).filter fun i =>
      !places.contains i)).map (place 1 0) := by
  rw [← map_fst_filter_zipIdx entries fun i => !places.contains i, outside, List.map_map]
  rfl

theorem map_unplaced_outside (places : List Nat) (entries : List ChainEntry) :
    (outside places entries).map ChainEntry.unplaced =
      (pick entries ((List.range entries.length).filter fun i => !places.contains i)).map
        ChainEntry.unplaced := by
  rw [outside_eq_pick, List.map_map]
  rfl

theorem outside_sublist (places : List Nat) (entries : List ChainEntry) :
    ((outside places entries).map ChainEntry.unplaced).Sublist
      (entries.map ChainEntry.unplaced) := by
  rw [map_unplaced_outside]
  conv_rhs => rw [← pick_range entries]
  exact (List.filter_sublist.filterMap _).map _

/-- The entries at some places and those at all other places are all entries. -/
theorem pick_append_pick_perm (hnodup : places.Nodup)
    (hwithin : ∀ i ∈ places, i < entries.length) :
    (pick entries places ++
      pick entries ((List.range entries.length).filter fun i => !places.contains i)).Perm
        entries := by
  have hplaces : places.Perm ((List.range entries.length).filter fun i => places.contains i) := by
    refine (List.perm_ext_iff_of_nodup hnodup (List.nodup_range.filter _)).mpr fun i => ?_
    simp only [List.mem_filter, List.mem_range, List.contains_iff_mem]
    exact ⟨fun hi => ⟨hwithin i hi, hi⟩, fun hi => hi.2⟩
  conv_rhs => rw [← pick_range entries]
  unfold pick
  rw [← List.filterMap_append]
  exact ((hplaces.append_right _).trans (List.filter_append_perm _ _)).filterMap _

theorem along_append_outside_perm (hnodup : places.Nodup)
    (hwithin : ∀ i ∈ places, i < entries.length) :
    ((along places entries ++ outside places entries).map ChainEntry.unplaced).Perm
      (entries.map ChainEntry.unplaced) := by
  rw [List.map_append, map_unplaced_along, map_unplaced_outside, ← List.map_append]
  exact (pick_append_pick_perm hnodup hwithin).map _

theorem mem_outside {e : ChainEntry} (h : e ∈ outside places entries) :
    e.position = 0 ∧ e.role = if e.certificate.isSelfIssued then .root else .leaf := by
  obtain ⟨x, _, rfl⟩ := List.mem_map.mp h
  refine ⟨rfl, ?_⟩
  simp [place, roleAt]

end Chain
end CertAudit
