/- The tokens that a YAML text is made of. -/
import CertAudit.Bytes
namespace CertAudit.Yaml

/-- A token. The end of the tokens is the end of the text. Tags are of bytes, which need not spell
a text. -/
inductive Token
  | version (major minor : Nat)
  | tagHandle (handle : String) (lead : Bytes)
  | documentStart
  | documentEnd
  | sequenceStart
  | mappingStart
  | blockEnd
  | flowSequenceStart
  | flowSequenceEnd
  | flowMappingStart
  | flowMappingEnd
  | blockEntry
  | flowEntry
  | key
  | value
  | alias (name : String)
  | anchor (name : String)
  | tag (handle : String) (suffix : Bytes)
  | scalar (plain : Bool) (text : String)
deriving Repr, DecidableEq

end CertAudit.Yaml
