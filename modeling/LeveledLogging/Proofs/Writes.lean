import LeveledLogging.Proofs.Absorption
/-! Writes at places in a document. A write is refused only for an empty part, and then the document is
as it was; otherwise what was written is read back, a second write at the place leaves nothing of the
first, and writes at places apart from each other can be exchanged. What is read at another place stays
the same, but for what an array on the way had (`writesObeyStore`). -/
namespace LeveledLogging

namespace Entries

variable {α : Type}

theorem insertAgain (key : String) (first second : α) (entries : Entries α) :
    (entries.insert key first).insert key second = entries.insert key second := by
  induction entries with
  | nil => simp [insert]
  | cons pair rest ih =>
    obtain ⟨k, v⟩ := pair
    by_cases less : key < k
    · simp [insert, less]
    · by_cases same : k = key
      · simp [insert, same]
      · simp [insert, less, same, ih]

theorem insertExchange {entries : Entries α} (ascending : entries.Ascending) {key other : String}
    (differ : key ≠ other) (value more : α) :
    (entries.insert key value).insert other more = (entries.insert other more).insert key value := by
  have one := ascendingInsert (ascendingInsert ascending key value) other more
  have two := ascendingInsert (ascendingInsert ascending other more) key value
  refine ascendingUnique one two ?_
  intro k
  simp only [findInsert]
  by_cases here : k = other
  · simp [here, Ne.symm differ]
  · simp [here]

end Entries

namespace Document

inductive Diverge : List String → List String → Prop where
  | here {part other : String} (differ : part ≠ other) (rest more : List String) :
      Diverge (part :: rest) (other :: more)
  | under {rest more : List String} (part : String) (apart : Diverge rest more) :
      Diverge (part :: rest) (part :: more)

theorem divergeIff {place other : List String} :
    Diverge place other ↔ ¬ place <+: other ∧ ¬ other <+: place := by
  constructor
  · intro apart
    induction apart with
    | here differ rest more => simp [List.cons_prefix_cons, differ, Ne.symm differ]
    | under part _ ih => simpa [List.cons_prefix_cons] using ih
  · rintro ⟨notAbove, notBelow⟩
    induction place generalizing other with
    | nil => exact absurd List.nil_prefix notAbove
    | cons part rest ih =>
      cases other with
      | nil => exact absurd List.nil_prefix notBelow
      | cons part' more =>
        by_cases same : part = part'
        · subst same
          simp only [List.cons_prefix_cons, true_and] at notAbove notBelow
          exact .under part (ih notAbove notBelow)
        · exact .here same rest more

@[simp] theorem membersObject (members : Entries Document) : (object members).members = members := rfl

theorem putAgain (place : List String) (first second document : Document) :
    put place second (put place first document) = put place second document := by
  induction place generalizing document with
  | nil => rfl
  | cons part rest ih =>
    simp only [put, membersObject, Entries.findInsert, Entries.insertAgain, if_true,
      Option.getD_some, ih]

theorem putExchange {place other : List String} (apart : Diverge place other) (value more : Document)
    {document : Document} (ordered : document.Ordered) :
    put other more (put place value document) = put place value (put other more document) := by
  induction apart generalizing document with
  | here differ rest tail =>
    have ascending := (membersOrdered ordered).1
    simp only [put, membersObject, Entries.findInsert, if_neg differ, if_neg (Ne.symm differ),
      Entries.insertExchange ascending differ]
  | under part _ ih =>
    obtain ⟨_, inside⟩ := membersOrdered ordered
    have lower : ((document.members.find? part).getD null).Ordered := by
      cases found : document.members.find? part with
      | none => exact .null
      | some there => exact findOrdered inside found
    simp only [put, membersObject, Entries.findInsert, Entries.insertAgain, if_true,
      Option.getD_some, ih lower]

/- Something is an array on the way that two places have in common. -/
def ArrayShared (place other : List String) (document : Document) : Prop :=
  ∃ way items, way <+: place ∧ way <+: other ∧ follow way document = some (list items)

theorem ArrayShared.deeper {place other : List String} {part : String} {document child : Document}
    (stepped : document.step part = some child) (shared : ArrayShared place other child) :
    ArrayShared (part :: place) (part :: other) document := by
  obtain ⟨way, items, above, aboveToo, found⟩ := shared
  refine ⟨part :: way, items, List.cons_prefix_cons.mpr ⟨rfl, above⟩,
    List.cons_prefix_cons.mpr ⟨rfl, aboveToo⟩, ?_⟩
  simp [follow, stepped, found]

theorem arrayHere (place other : List String) (items : List Document) :
    ArrayShared place other (list items) :=
  ⟨[], items, List.nil_prefix, List.nil_prefix, rfl⟩

theorem stepMember (part : String) (document : Document) :
    document.step part = document.members.find? part ∨ ∃ items, document = list items := by
  cases document with
  | list items => exact .inr ⟨items, rfl⟩
  | _ => exact .inl rfl

theorem followPutNull {place other : List String} (apart : Diverge place other) (value : Document) :
    follow other (put place value null) = none := by
  have nothing : ∀ part, Entries.find? part null.members = none := fun _ => rfl
  induction apart with
  | here differ rest more =>
    simp [follow, put, step, Entries.findInsert, Ne.symm differ, nothing]
  | under part apart ih => simp [follow, put, step, Entries.findInsert, nothing, ih]

theorem followPutApart {place other : List String} (apart : Diverge place other)
    (value document : Document) :
    follow other (put place value document) = follow other document ∨
      follow other (put place value document) = none ∧ ArrayShared place other document := by
  induction apart generalizing document with
  | @here part other' differ rest more =>
    have after : follow (other' :: more) (put (part :: rest) value document) =
        (document.members.find? other').bind (follow more) := by
      simp only [follow, put, step, Entries.findInsert, if_neg (Ne.symm differ)]
      rfl
    rcases stepMember other' document with plain | ⟨items, rfl⟩
    · refine .inl ?_
      rw [after, ← plain]
      rfl
    · exact .inr ⟨after, arrayHere _ _ items⟩
  | @under rest more part apart ih =>
    have after : follow (part :: more) (put (part :: rest) value document) =
        follow more (put rest value ((document.members.find? part).getD null)) := by
      simp [follow, put, step, Entries.findInsert]
    rw [after]
    rcases stepMember part document with plain | ⟨items, rfl⟩
    · cases found : document.members.find? part with
      | none =>
        refine .inl ?_
        simp [follow, plain, found, followPutNull apart]
      | some child =>
        have stepped := plain.trans found
        have before : follow (part :: more) document = follow more child := by simp [follow, stepped]
        rw [before, Option.getD_some]
        rcases ih child with same | ⟨lost, shared⟩
        · exact .inl same
        · exact .inr ⟨lost, shared.deeper stepped⟩
    · exact .inr ⟨followPutNull apart value, arrayHere _ _ items⟩

/- A write made in place, from the top of a document down: what is no object is emptied, a missing
member is made, and the walk goes on in it. What was changed before a failure stays changed. -/
def overwrite : List String → Document → Document → Except LogError Unit × Document
  | [], value, _ => (.ok (), value)
  | part :: rest, value, document =>
    match (if document.isObject then document else empty) with
    | object members =>
      let (result, child) := overwrite rest value ((Entries.find? part members).getD null)
      (result, object (Entries.insert part child members))
    | other => (.error (.bug ("value at '" ++ part ++ "' is not an object")), other)

def setInPlace (document : Document) (path : String) (value : Document) :
    Except LogError Unit × Document :=
  let parts := Text.split '.' path
  if "" ∈ parts then (.error (.config (.key path)), document) else overwrite parts value document

theorem overwritePuts (place : List String) (value document : Document) :
    overwrite place value document = (.ok (), put place value document) := by
  induction place generalizing document with
  | nil => rfl
  | cons part rest ih =>
    have opened : (if document.isObject then document else empty) = object document.members := by
      cases document <;> rfl
    rw [overwrite, opened]
    dsimp only
    rw [ih, put]

theorem setOkIff {document after : Document} {path : String} {value : Document} :
    document.set path value = .ok after ↔
      "" ∉ Text.split '.' path ∧ put (Text.split '.' path) value document = after := by
  unfold set place
  by_cases blank : "" ∈ Text.split '.' path <;> simp [blank, bind, Except.bind, pure, Except.pure]

theorem setErrorIff {document : Document} {path : String} {value : Document} {failure : LogError} :
    document.set path value = .error failure ↔
      "" ∈ Text.split '.' path ∧ LogError.config (.key path) = failure := by
  unfold set place
  by_cases blank : "" ∈ Text.split '.' path <;> simp [blank, bind, Except.bind, pure, Except.pure]

/- A part of a path that lies between dots, or in front of the first or behind the last one, is empty. -/
def BlankPart (path : String) : Prop :=
  ∃ parts, path = Text.join '.' parts ∧ (∀ part ∈ parts, '.' ∉ part.toList) ∧ "" ∈ parts

theorem blankPartIff {path : String} : BlankPart path ↔ "" ∈ Text.split '.' path := by
  constructor
  · rintro ⟨parts, rfl, free, blank⟩
    rwa [Text.splitJoin (List.ne_nil_of_mem blank) free]
  · intro blank
    exact ⟨_, (Text.joinSplit '.' path).symm, fun _ inside => Text.splitFree inside, blank⟩

def PathsApart (path other : String) : Prop :=
  ¬ Text.split '.' path <+: Text.split '.' other ∧ ¬ Text.split '.' other <+: Text.split '.' path

theorem setAgain {document after : Document} {path : String} {value : Document}
    (written : document.set path value = .ok after) (second : Document) :
    after.set path second = document.set path second := by
  obtain ⟨whole, rfl⟩ := setOkIff.mp written
  rw [setOkIff.mpr ⟨whole, rfl⟩, setOkIff.mpr ⟨whole, rfl⟩, putAgain]

theorem setExchange {document after : Document} (ordered : document.Ordered) {path other : String}
    (apart : PathsApart path other) {value : Document}
    (written : document.set path value = .ok after) (more : Document) :
    after.set other more = (do (← document.set other more).set path value) := by
  obtain ⟨whole, rfl⟩ := setOkIff.mp written
  cases wrote : document.set other more with
  | error failure =>
    obtain ⟨blank, rfl⟩ := setErrorIff.mp wrote
    exact setErrorIff.mpr ⟨blank, rfl⟩
  | ok between =>
    obtain ⟨wholeToo, rfl⟩ := setOkIff.mp wrote
    have exchanged := putExchange (divergeIff.mpr apart) value more ordered
    exact (setOkIff.mpr ⟨wholeToo, exchanged⟩).trans (setOkIff.mpr ⟨whole, rfl⟩).symm

theorem writesObeyStore (document : Document) (path : String) (value : Document) :
    ((∃ failure, document.set path value = .error failure) ↔ BlankPart path) ∧
    (∀ failure, document.set path value = .error failure →
      failure = .config (.key path) ∧
        document.setInPlace path value = (.error failure, document)) ∧
    ∀ after, document.set path value = .ok after →
      document.setInPlace path value = (.ok (), after) ∧
      after.get? path = some value ∧
      (∀ second, after.set path second = document.set path second) ∧
      (∀ other more, document.Ordered → PathsApart path other →
        after.set other more = (do (← document.set other more).set path value)) ∧
      ∀ other, PathsApart path other →
        after.get? other = document.get? other ∨ after.get? other = none ∧
          ∃ way items, way <+: Text.split '.' path ∧ way ≠ Text.split '.' path ∧
            way <+: Text.split '.' other ∧ follow way document = some (list items) := by
  refine ⟨?_, ?_, ?_⟩
  · rw [blankPartIff]
    exact ⟨fun ⟨_, failed⟩ => (setErrorIff.mp failed).1, fun blank => ⟨_, setErrorIff.mpr ⟨blank, rfl⟩⟩⟩
  · intro failure failed
    obtain ⟨blank, rfl⟩ := setErrorIff.mp failed
    exact ⟨rfl, if_pos blank⟩
  · intro after written
    obtain ⟨whole, same⟩ := setOkIff.mp written
    refine ⟨?_, ?_, setAgain written, ?_, ?_⟩
    · rw [setInPlace, if_neg whole, overwritePuts, same]
    · rw [← same]
      exact followPut _ value document
    · intro other more ordered apart
      exact setExchange ordered apart written more
    · intro other apart
      rw [get?, get?, ← same]
      rcases followPutApart (divergeIff.mpr apart) value document with kept | ⟨lost, shared⟩
      · exact .inl kept
      · obtain ⟨way, items, above, aboveToo, found⟩ := shared
        exact .inr ⟨lost, way, items, above, fun whole => apart.1 (whole ▸ aboveToo), aboveToo, found⟩

/- An array that gives way takes with it what was at another of its places. -/
theorem arrayGivesWay :
    let document : Document := .object [("a", .list [.integer 1]), ("b", .list [.integer 2])]
    let after : Document :=
      .object [("a", .object [("x", .boolean true)]), ("b", .list [.integer 2])]
    document.Ordered ∧ PathsApart "a.x" "a.0" ∧ PathsApart "a.x" "b.0" ∧
      document.set "a.x" (.boolean true) = .ok after ∧
      document.setInPlace "a.x" (.boolean true) = (.ok (), after) ∧
      after.get? "a.x" = some (.boolean true) ∧ document.get? "a.0" = some (.integer 1) ∧
      after.get? "a.0" = none ∧ after.get? "b.0" = document.get? "b.0" ∧
      after.set "a.x" .null = document.set "a.x" .null ∧
      after.set "b.0" .null = (do (← document.set "b.0" .null).set "a.x" (.boolean true)) ∧
      document.setInPlace "a..x" .null = (.error (.config (.key "a..x")), document) := by
  intro document after
  have ordered : document.Ordered := by
    refine .object (by decide) ?_
    intro pair inside
    rcases List.mem_pair.mp inside with rfl | rfl <;>
      exact .list (by simp [Ordered.integer])
  have apart : PathsApart "a.x" "b.0" := by unfold PathsApart; decide
  have written : document.set "a.x" (.boolean true) = .ok after := rfl
  have refused : document.set "a..x" .null = .error (.config (.key "a..x")) := rfl
  obtain ⟨_, _, succeeds⟩ := writesObeyStore document "a.x" (.boolean true)
  obtain ⟨inPlace, read, again, exchanged, _⟩ := succeeds after written
  obtain ⟨_, untouched⟩ := (writesObeyStore document "a..x" .null).2.1 _ refused
  exact ⟨ordered, by unfold PathsApart; decide, apart, written, inPlace, read, rfl, rfl, rfl,
    again .null, exchanged "b.0" .null ordered apart, untouched⟩

end Document

end LeveledLogging
