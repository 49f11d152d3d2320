import LeveledLogging.Decimal.Shortest
import LeveledLogging.Entries
import LeveledLogging.Error
import LeveledLogging.Fields
import LeveledLogging.Text.Pieces
import LeveledLogging.Text.Quoted
/-!
Documents: nested data of the seven kinds that configuration is written in. A place is written as parts
between dots: reading one that was just written gives what was written there (`followPut`), and writing
makes every part of the way an object. Documents laid over each other come together member by member.
In an `OrderedDocument` the members of every object stand in ascending order of their keys.
-/
namespace LeveledLogging

inductive Document where
  | null
  | boolean (b : Bool)
  | integer (n : Int)
  | float (x : Binary64)
  | text (s : String)
  | list (items : List Document)
  | object (members : List (String × Document))

namespace Document

instance : Inhabited Document := ⟨null⟩

def empty : Document := object []

def isNull : Document → Bool
  | null => true
  | _ => false

def member? (key : String) : Document → Option Document
  | object members => Entries.find? key members
  | _ => none

def members : Document → Entries Document
  | object members => members
  | _ => []

def kind : Document → String
  | null => "null"
  | boolean b => "boolean `" ++ boolWord b ++ "`"
  | integer n => "integer `" ++ Text.integer n ++ "`"
  | float x => "floating point `" ++ x.text .pointed ++ "`"
  | text s => "string " ++ Text.quote s
  | list _ => "sequence"
  | object _ => "map"

/-! ## Places -/

def step (part : String) : Document → Option Document
  | object members => Entries.find? part members
  | list items => do items[← Text.readNat UInt64.size part]?
  | _ => none

def follow : List String → Document → Option Document
  | [], document => some document
  | part :: rest, document => do follow rest (← document.step part)

def get? (document : Document) (path : String) : Option Document :=
  follow (Text.split '.' path) document

def put : List String → Document → Document → Document
  | [], value, _ => value
  | part :: rest, value, document =>
    object (Entries.insert part
      (put rest value ((Entries.find? part document.members).getD null)) document.members)

def place (path : String) : Except LogError (List String) :=
  let parts := Text.split '.' path
  if "" ∈ parts then .error (.config (.key path)) else .ok parts

def set (document : Document) (path : String) (value : Document) : Except LogError Document :=
  return put (← place path) value document

theorem followPut (parts : List String) (value document : Document) :
    follow parts (put parts value document) = some value := by
  induction parts generalizing document with
  | nil => rfl
  | cons part rest ih =>
    simp only [put, follow, step, Entries.findInsert, if_pos, bind, Option.bind]
    exact ih _

/-! ## Merging -/

mutual

def merge : Document → Document → Document
  | object members, object top => object (mergeMembers members top)
  | _, top => top

def mergeMembers (members : Entries Document) : List (String × Document) → Entries Document
  | [] => members
  | (key, top) :: rest =>
    let laid := match Entries.find? key members with
      | some below => merge below top
      | none => top
    mergeMembers (Entries.insert key laid members) rest

end

def mergeAll (layers : List Document) : Document := layers.foldl merge empty

/-! ## Equality -/

mutual

def same : Document → Document → Bool
  | null, null => true
  | boolean a, boolean b => a = b
  | integer a, integer b => a = b
  | float a, float b => a = b
  | text a, text b => a = b
  | list a, list b => sameItems a b
  | object a, object b => sameMembers a b
  | _, _ => false

def sameItems : List Document → List Document → Bool
  | [], [] => true
  | a :: as, b :: bs => same a b && sameItems as bs
  | _, _ => false

def sameMembers : List (String × Document) → List (String × Document) → Bool
  | [], [] => true
  | (k, a) :: as, (l, b) :: bs => k = l && same a b && sameMembers as bs
  | _, _ => false

end

mutual

theorem sameIff : ∀ {a b : Document}, same a b = true ↔ a = b
  | null, b => by cases b <;> simp [same]
  | boolean a, b => by cases b <;> simp [same]
  | integer a, b => by cases b <;> simp [same]
  | float a, b => by cases b <;> simp [same]
  | text a, b => by cases b <;> simp [same]
  | list a, b => by cases b <;> simp [same, sameItemsIff]
  | object a, b => by cases b <;> simp [same, sameMembersIff]

theorem sameItemsIff : ∀ {as bs : List Document}, sameItems as bs = true ↔ as = bs
  | [], bs => by cases bs <;> simp [sameItems]
  | a :: as, bs => by cases bs <;> simp [sameItems, sameIff, sameItemsIff]

theorem sameMembersIff : ∀ {as bs : List (String × Document)}, sameMembers as bs = true ↔ as = bs
  | [], bs => by cases bs <;> simp [sameMembers]
  | (k, a) :: as, bs => by
    cases bs with
    | nil => simp [sameMembers]
    | cons b bs =>
      obtain ⟨l, b⟩ := b
      simp [sameMembers, sameIff, sameMembersIff]

end

instance : DecidableEq Document := fun _ _ => decidable_of_iff _ sameIff

/-! ## Order -/

inductive Ordered : Document → Prop where
  | null : Ordered .null
  | boolean (b : Bool) : Ordered (.boolean b)
  | integer (n : Int) : Ordered (.integer n)
  | float (x : Binary64) : Ordered (.float x)
  | text (s : String) : Ordered (.text s)
  | list {items : List Document} (inside : ∀ item ∈ items, Ordered item) : Ordered (.list items)
  | object {members : Entries Document} (ascending : members.Ascending)
      (inside : ∀ pair ∈ members, Ordered pair.2) : Ordered (.object members)

theorem emptyOrdered : empty.Ordered := .object List.Pairwise.nil (by simp)

theorem membersOrdered {document : Document} (ordered : document.Ordered) :
    document.members.Ascending ∧ ∀ pair ∈ document.members, pair.2.Ordered := by
  cases ordered with
  | object ascending inside => exact ⟨ascending, inside⟩
  | _ => exact ⟨List.Pairwise.nil, by simp [members]⟩

theorem findOrdered {members : Entries Document} (inside : ∀ pair ∈ members, pair.2.Ordered)
    {key : String} {document : Document} (found : members.find? key = some document) :
    document.Ordered := inside _ (Entries.findSomeMember found)

theorem insertOrdered {members : Entries Document} (ascending : members.Ascending)
    (inside : ∀ pair ∈ members, pair.2.Ordered) (key : String) {value : Document}
    (ordered : value.Ordered) : (object (members.insert key value)).Ordered := by
  have inserted := Entries.ascendingInsert ascending key value
  refine .object inserted ?_
  intro pair there
  have found := Entries.findMember inserted.nodup there
  rw [Entries.findInsert] at found
  split at found
  · cases found
    exact ordered
  · exact findOrdered inside found

theorem putOrdered {value document : Document} (given : value.Ordered)
    (ordered : document.Ordered) (parts : List String) : (put parts value document).Ordered := by
  induction parts generalizing document with
  | nil => exact given
  | cons part rest ih =>
    obtain ⟨ascending, inside⟩ := membersOrdered ordered
    have below : ((document.members.find? part).getD null).Ordered := by
      cases found : document.members.find? part with
      | none => exact .null
      | some there => exact findOrdered inside found
    exact insertOrdered ascending inside part (ih below)

end Document

@[ext]
structure OrderedDocument where
  document : Document
  ordered : document.Ordered
  deriving DecidableEq

namespace OrderedDocument

def null : OrderedDocument := ⟨.null, .null⟩

def boolean (b : Bool) : OrderedDocument := ⟨.boolean b, .boolean b⟩

def integer (n : Int) : OrderedDocument := ⟨.integer n, .integer n⟩

def float (x : Binary64) : OrderedDocument := ⟨.float x, .float x⟩

def text (s : String) : OrderedDocument := ⟨.text s, .text s⟩

def list (items : List OrderedDocument) : OrderedDocument where
  document := .list (items.map document)
  ordered := by
    refine .list ?_
    intro item inside
    obtain ⟨given, _, rfl⟩ := List.mem_map.mp inside
    exact given.ordered

def object (members : Table OrderedDocument) : OrderedDocument where
  document := .object (members.entries.mapValues document)
  ordered := by
    refine .object (members.ascending.mapValues document) ?_
    intro pair inside
    obtain ⟨given, _, rfl⟩ := List.mem_map.mp inside
    exact given.2.ordered

def empty : OrderedDocument := ⟨.empty, Document.emptyOrdered⟩

def isNull (ordered : OrderedDocument) : Bool := ordered.document.isNull

def put (parts : List String) (value ordered : OrderedDocument) : OrderedDocument :=
  ⟨.put parts value.document ordered.document, Document.putOrdered value.ordered ordered.ordered parts⟩

end OrderedDocument

end LeveledLogging
