/- What a cache of patterns holds: the pattern of each text that it was asked for, once. -/
import CertAudit.Pattern
import Mathlib.Data.Finset.Card
import Mathlib.Data.Finset.Dedup
namespace CertAudit.PatternCache

variable {cache : PatternCache} {asked : List String} {source : String}

/-- A cache remembers the texts it was asked for, each with its own pattern if it spells one. -/
structure Remembers (cache : PatternCache) (asked : List String) : Prop where
  mem_iff : ∀ source p,
    (source, p) ∈ cache.entries ↔ source ∈ asked ∧ Pattern.ofText? source = some p
  distinct : (cache.entries.map Prod.fst).Nodup

theorem remembers_empty : ({} : PatternCache).Remembers [] where
  mem_iff := by
    intro source p
    exact ⟨nofun, nofun⟩
  distinct := .nil

theorem mem_of_lookup {p : Pattern} (h : cache.entries.lookup source = some p) :
    (source, p) ∈ cache.entries := by
  obtain ⟨before, behind, heq, _⟩ := List.lookup_eq_some_iff.mp h
  rw [heq]
  exact List.mem_append_right before List.mem_cons_self

theorem not_mem_of_lookup (h : cache.entries.lookup source = none) (p : Pattern) :
    (source, p) ∉ cache.entries := by
  intro hmem
  have hne := List.lookup_eq_none_iff.mp h (source, p) hmem
  simp at hne

namespace Remembers

/-- The pattern of a text is the one that it spells, whatever was asked for before. -/
theorem get?_fst (h : cache.Remembers asked) (source : String) :
    (cache.get? source).1 = Pattern.ofText? source := by
  simp only [get?]
  split
  · next p hfound =>
    exact ((h.mem_iff source p).mp (mem_of_lookup hfound)).2.symm
  · split
    · next p hspelt => exact hspelt.symm
    · next hspelt => exact hspelt.symm

theorem get?_snd (h : cache.Remembers asked) (source : String) :
    (cache.get? source).2.Remembers (asked ++ [source]) := by
  have hold : ∀ {other : String} {p : Pattern}, other ∈ asked ∧ Pattern.ofText? other = some p →
      other ∈ asked ++ [source] ∧ Pattern.ofText? other = some p :=
    fun hmem => ⟨List.mem_append_left [source] hmem.1, hmem.2⟩
  have hnew : ∀ {other : String}, other ∈ asked ++ [source] → other ∈ asked ∨ other = source :=
    fun hmem => (List.mem_append.mp hmem).imp_right List.mem_singleton.mp
  simp only [get?]
  -- A text that is found was asked for before, and one that spells no pattern is not kept.
  split
  · next p hfound =>
    have hsource : source ∈ asked := ((h.mem_iff source p).mp (mem_of_lookup hfound)).1
    refine ⟨?_, h.distinct⟩
    intro other q
    rw [h.mem_iff]
    refine ⟨hold, fun hmem => ⟨?_, hmem.2⟩⟩
    rcases hnew hmem.1 with hasked | rfl
    · exact hasked
    · exact hsource
  · next hmissing =>
    split
    · next p hspelt =>
      constructor
      · intro other q
        rw [List.mem_cons, h.mem_iff, Prod.mk.injEq]
        constructor
        · rintro (⟨rfl, rfl⟩ | hmem)
          · exact ⟨List.mem_append_right asked (List.mem_singleton_self _), hspelt⟩
          · exact hold hmem
        · rintro ⟨hmem, hq⟩
          rcases hnew hmem with hasked | rfl
          · exact .inr ⟨hasked, hq⟩
          · rw [hspelt] at hq
            exact .inl ⟨rfl, (Option.some.inj hq).symm⟩
      · rw [List.map_cons, List.nodup_cons]
        refine ⟨?_, h.distinct⟩
        intro hmem
        obtain ⟨⟨other, q⟩, hq, rfl⟩ := List.mem_map.mp hmem
        exact not_mem_of_lookup hmissing q hq
    · next hspelt =>
      refine ⟨?_, h.distinct⟩
      intro other q
      rw [h.mem_iff]
      refine ⟨hold, fun hmem => ⟨?_, hmem.2⟩⟩
      rcases hnew hmem.1 with hasked | rfl
      · exact hasked
      · rw [hspelt] at hmem
        cases hmem.2

/-- There are as many patterns as texts that spell one, however often these were asked for. -/
theorem size_eq (h : cache.Remembers asked) :
    cache.size = (asked.toFinset.filter fun s => (Pattern.ofText? s).isSome).card := by
  have hsources : (cache.entries.map Prod.fst).toFinset =
      asked.toFinset.filter fun s => (Pattern.ofText? s).isSome := by
    ext source
    rw [List.mem_toFinset, List.mem_map, Finset.mem_filter, List.mem_toFinset,
      Option.isSome_iff_exists]
    constructor
    · rintro ⟨⟨_, p⟩, hmem, rfl⟩
      obtain ⟨hasked, hspelt⟩ := (h.mem_iff _ p).mp hmem
      exact ⟨hasked, p, hspelt⟩
    · rintro ⟨hasked, p, hspelt⟩
      exact ⟨(source, p), (h.mem_iff source p).mpr ⟨hasked, hspelt⟩, rfl⟩
  rw [← hsources, List.toFinset_card_of_nodup h.distinct, List.length_map, size]

end Remembers
end CertAudit.PatternCache
