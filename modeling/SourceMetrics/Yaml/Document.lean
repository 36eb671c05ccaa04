import SourceMetrics.Yaml.Event

/-!
# Documents

The first document of a text: its events as far as the text is YAML, and what is wrong behind them.
A text must hold one document only, but what the first one holds counts in any case.
-/

namespace SourceMetrics.Yaml

/-- The first document of a text. -/
structure Document where
  events : List (Event × Mark)
  /-- For each anchor the number of the event that it stands at. -/
  targets : List (Nat × Nat)
  /-- What ends the events too early. -/
  fault : Option Fault
  /-- Whether more than the document is there. -/
  isFollowed : Bool
  deriving Inhabited

namespace Document

/-- A position in bytes, for a text of which nothing can be read. -/
def forbiddenAt (byte : Nat) : Fault :=
  let place := if byte = 0 then "" else s!" at position {byte}"
  ⟨"control characters are not allowed" ++ place, .start, none⟩

/-- The byte at which the first forbidden character of a text stands. -/
def forbidden? : List Char → (byte : Nat) → Option Nat
  | [], _ => none
  | c :: cs, byte => if isAllowed c then forbidden? cs (byte + c.utf8Size) else some byte

/-- Reads the first document of a text. Of a text with forbidden characters nothing is read. -/
def ofString (s : String) : Document :=
  match forbidden? s.toList 0 with
  | some byte => ⟨[], [], some (forbiddenAt byte), false⟩
  | none =>
    let fuel := 8 * s.toList.length + 16
    let start : EventReader := ⟨.ofString s, [], [], [], []⟩
    let (result, r) := (EventM.readDocument fuel).run.run start
    let fault? := match result with
      | .ok _ => none
      | .error fault => some fault
    let isFollowed := fault?.isNone && match (EventM.isOver fuel).run.run r with
      | (.ok isOver, _) => !isOver
      | (.error _, _) => true
    ⟨r.emitted.reverse, r.targets, fault?, isFollowed⟩

/-- The events from the one on that an anchor stands at. -/
def jump (d : Document) (anchor : Nat) : List (Event × Mark) :=
  match d.targets.find? (·.1 = anchor) with
  | some (_, n) => d.events.drop n
  | none => []

end Document

/-- There are more documents than one. -/
def Fault.severalDocuments : Fault :=
  ⟨"deserializing from YAML containing more than one document is not supported", .start, none⟩

/-- A document ends before a value. -/
def Fault.endOfDocument : Fault := ⟨"EOF while parsing a value", .start, none⟩

/-- The events behind the value that comes next. `depth` counts the collections that are open. -/
def skipValue : (depth : Nat) → List (Event × Mark) → Option (List (Event × Mark))
  | _, [] => none
  | depth, (.sequenceStart _, _) :: rest | depth, (.mappingStart _, _) :: rest =>
    skipValue (depth + 1) rest
  | depth, (.sequenceEnd, _) :: rest | depth, (.mappingEnd, _) :: rest =>
    if depth ≤ 1 then some rest else skipValue (depth - 1) rest
  | depth, (.reference _, _) :: rest | depth, (.scalar _ _ _, _) :: rest =>
    if depth = 0 then some rest else skipValue depth rest

end SourceMetrics.Yaml
