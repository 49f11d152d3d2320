/-!
Entries under text keys, in ascending order of the keys. Insertion keeps the order (`ascendingInsert`),
and look-up sees exactly the last value inserted under a key (`findInsert`). Pairs in the order in which
they were given are read by `lastOf`, where the last pair of a key counts: insertion in any order agrees
with it (`findInsertAll`), and so does a list without repeated keys (`lastOfDistinct`).
-/
namespace LeveledLogging

abbrev Entries (α : Type) := List (String × α)

namespace Entries

variable {α : Type}

def find? (key : String) (entries : Entries α) : Option α := List.lookup key entries

def keys (entries : Entries α) : List String := List.map Prod.fst entries

def insert (key : String) (value : α) : Entries α → Entries α
  | [] => [(key, value)]
  | (k, v) :: rest =>
    if key < k then (key, value) :: (k, v) :: rest
    else if k = key then (key, value) :: rest
    else (k, v) :: insert key value rest

def insertAll (entries : Entries α) (more : List (String × α)) : Entries α :=
  more.foldl (fun es (k, v) => es.insert k v) entries

def ofList (entries : List (String × α)) : Entries α := insertAll [] entries

def mapValues {β : Type} (f : α → β) (entries : Entries α) : Entries β :=
  List.map (fun (key, value) => (key, f value)) entries

def Ascending (entries : Entries α) : Prop := entries.keys.Pairwise (· < ·)

instance (entries : Entries α) : Decidable entries.Ascending :=
  inferInstanceAs (Decidable (entries.keys.Pairwise (· < ·)))

theorem findInsert (key k : String) (value : α) (entries : Entries α) :
    (entries.insert key value).find? k = if k = key then some value else entries.find? k := by
  induction entries with
  | nil => simp only [insert, find?, List.lookup_cons, List.lookup_nil]; split <;> simp_all
  | cons p rest ih =>
    obtain ⟨k', v⟩ := p
    simp only [find?] at ih
    simp only [insert]
    split
    · simp only [find?, List.lookup_cons]
      split <;> simp_all
    · split
      · rename_i h
        subst h
        simp only [find?, List.lookup_cons]
        split <;> simp_all
      · rename_i hne
        simp only [find?, List.lookup_cons, ih]
        split
        · rename_i hk
          have : k = k' := by simpa using hk
          rw [if_neg (this ▸ hne)]
        · rfl

end Entries

theorem lookupCons {α β : Type} [BEq α] [LawfulBEq α] [DecidableEq α] (key : α) (pair : α × β)
    (rest : List (α × β)) :
    (pair :: rest).lookup key = if pair.1 = key then some pair.2 else rest.lookup key := by
  obtain ⟨k, v⟩ := pair
  rw [List.lookup_cons]
  by_cases same : k = key
  · simp [same]
  · have differ : (key == k) = false := beq_eq_false_iff_ne.mpr (Ne.symm same)
    simp [same, differ]

section
variable {α β : Type} [DecidableEq α]

def lastOf : List (α × β) → α → Option β
  | [], _ => none
  | (k, v) :: rest, key => (lastOf rest key).or (if k = key then some v else none)

theorem lastOfAppend (before after : List (α × β)) (key : α) :
    lastOf (before ++ after) key = (lastOf after key).or (lastOf before key) := by
  induction before with
  | nil => simp [lastOf]
  | cons pair rest ih => rw [List.cons_append, lastOf, lastOf, ih, Option.or_assoc]

theorem lastOfNone {pairs : List (α × β)} {key : α} :
    lastOf pairs key = none ↔ key ∉ pairs.map Prod.fst := by
  induction pairs with
  | nil => simp [lastOf]
  | cons pair rest ih =>
    obtain ⟨k, v⟩ := pair
    simp only [lastOf, Option.or_eq_none_iff, ih, List.map_cons, List.mem_cons, not_or]
    by_cases same : k = key
    · simp [same]
    · simp [same, Ne.symm same]

theorem lastOfSome {pairs : List (α × β)} {key : α} {value : β} :
    lastOf pairs key = some value ↔
      ∃ before after, pairs = before ++ (key, value) :: after ∧ key ∉ after.map Prod.fst := by
  constructor
  · intro found
    induction pairs with
    | nil => simp [lastOf] at found
    | cons pair rest ih =>
      obtain ⟨k, v⟩ := pair
      rw [lastOf, Option.or_eq_some_iff] at found
      rcases found with later | ⟨absent, here⟩
      · obtain ⟨before, after, rfl, fresh⟩ := ih later
        exact ⟨(k, v) :: before, after, rfl, fresh⟩
      · split at here
        · rename_i same
          cases Option.some.inj here
          exact ⟨[], rest, by rw [same]; rfl, lastOfNone.mp absent⟩
        · contradiction
  · rintro ⟨before, after, rfl, fresh⟩
    rw [lastOfAppend, lastOf, lastOfNone.mpr fresh]
    simp

theorem lastOfMember {pairs : List (α × β)} {key : α} {value : β}
    (found : lastOf pairs key = some value) : (key, value) ∈ pairs := by
  obtain ⟨before, after, rfl, _⟩ := lastOfSome.mp found
  simp

theorem lastOfUnique {pairs : List (α × β)} (distinct : (pairs.map Prod.fst).Nodup) {key : α}
    {value : β} : lastOf pairs key = some value ↔ (key, value) ∈ pairs := by
  constructor
  · exact lastOfMember
  · intro inside
    obtain ⟨before, after, rfl⟩ := List.append_of_mem inside
    rw [List.map_append, List.map_cons, List.nodup_append] at distinct
    exact lastOfSome.mpr ⟨before, after, rfl, (List.nodup_cons.mp distinct.2.1).1⟩

theorem lastOfPerm {pairs other : List (α × β)} (same : other.Perm pairs)
    (distinct : (pairs.map Prod.fst).Nodup) (key : α) : lastOf other key = lastOf pairs key := by
  have distinctOther : (other.map Prod.fst).Nodup := ((same.map Prod.fst).nodup_iff).mpr distinct
  refine Option.ext fun value => ?_
  rw [lastOfUnique distinctOther, lastOfUnique distinct, same.mem_iff]

theorem lastOfRenamed {γ : Type} [DecidableEq γ] {rename : α → γ}
    (apart : ∀ a b, rename a = rename b → a = b) (pairs : List (α × β)) (key : α) :
    lastOf (pairs.map fun pair => (rename pair.1, pair.2)) (rename key) = lastOf pairs key := by
  induction pairs with
  | nil => rfl
  | cons pair rest ih =>
    have same : rename pair.1 = rename key ↔ pair.1 = key := ⟨apart _ _, congrArg rename⟩
    simp only [List.map_cons, lastOf, ih, same]

end

namespace Entries

variable {α : Type}

theorem findCons (key : String) (pair : String × α) (rest : Entries α) :
    find? key (pair :: rest) = if pair.1 = key then some pair.2 else find? key rest :=
  lookupCons key pair rest

theorem findInsertAll (entries : Entries α) (more : List (String × α)) (key : String) :
    (entries.insertAll more).find? key = (lastOf more key).or (entries.find? key) := by
  induction more generalizing entries with
  | nil => rfl
  | cons pair rest ih =>
    change (insertAll (entries.insert pair.1 pair.2) rest).find? key = _
    rw [ih, findInsert, lastOf, Option.or_assoc]
    by_cases same : key = pair.1
    · simp [same]
    · simp [same, Ne.symm same]

theorem findOfList (pairs : List (String × α)) (key : String) :
    (ofList pairs).find? key = lastOf pairs key := by
  rw [ofList, findInsertAll]
  exact Option.or_none

theorem findNone {entries : Entries α} {key : String} :
    entries.find? key = none ↔ key ∉ entries.keys := by
  induction entries with
  | nil => simp [find?, keys]
  | cons pair rest ih =>
    rw [findCons, keys, List.map_cons, List.mem_cons, not_or]
    by_cases same : pair.1 = key
    · simp [same]
    · rw [if_neg same, ih]
      exact (and_iff_right (Ne.symm same)).symm

theorem findSomeMember {entries : Entries α} {key : String} {value : α}
    (found : entries.find? key = some value) : (key, value) ∈ entries := by
  induction entries with
  | nil => simp [find?] at found
  | cons pair rest ih =>
    rw [findCons] at found
    split at found
    · rename_i same
      cases Option.some.inj found
      simp [← same]
    · exact List.mem_cons_of_mem _ (ih found)

theorem lastOfDistinct {entries : Entries α} (distinct : entries.keys.Nodup) (key : String) :
    lastOf entries key = entries.find? key := by
  induction entries with
  | nil => rfl
  | cons pair rest ih =>
    obtain ⟨fresh, tail⟩ := List.nodup_cons.mp distinct
    rw [lastOf, ih tail, findCons]
    by_cases same : pair.1 = key
    · have absent : find? key rest = none := findNone.mpr (same ▸ fresh)
      simp [same, absent]
    · simp [same]

theorem findMember {entries : Entries α} (distinct : entries.keys.Nodup) {key : String} {value : α}
    (inside : (key, value) ∈ entries) : entries.find? key = some value := by
  induction entries with
  | nil => contradiction
  | cons pair rest ih =>
    obtain ⟨fresh, tail⟩ := List.nodup_cons.mp distinct
    rw [findCons]
    rcases List.mem_cons.mp inside with rfl | later
    · exact if_pos rfl
    · have other : pair.1 ≠ key := by
        intro same
        exact fresh (List.mem_map.mpr ⟨_, later, same.symm⟩)
      rw [if_neg other]
      exact ih tail later

theorem Ascending.nodup {entries : Entries α} (h : entries.Ascending) : entries.keys.Nodup := by
  refine List.Pairwise.imp ?_ h
  intro a b less same
  exact String.lt_irrefl b (same ▸ less)

theorem keysInsert (key k : String) (value : α) (entries : Entries α) :
    k ∈ (entries.insert key value).keys ↔ k = key ∨ k ∈ entries.keys := by
  have absent : (entries.insert key value).find? k = none ↔ k ∉ (entries.insert key value).keys :=
    findNone
  rw [findInsert] at absent
  by_cases same : k = key
  · simpa [same] using absent
  · rw [if_neg same, findNone] at absent
    simpa [same] using (not_congr absent).symm

theorem ascendingInsert {entries : Entries α} (h : entries.Ascending) (key : String) (value : α) :
    (entries.insert key value).Ascending := by
  induction entries with
  | nil => exact List.pairwise_singleton _ _
  | cons pair rest ih =>
    obtain ⟨k, v⟩ := pair
    obtain ⟨above, tail⟩ := List.pairwise_cons.mp h
    simp only [insert]
    split
    · rename_i less
      refine List.pairwise_cons.mpr ⟨?_, h⟩
      intro other inside
      rcases List.mem_cons.mp inside with rfl | inside
      · exact less
      · exact String.lt_trans less (above other inside)
    · rename_i notLess
      split
      · rename_i same
        exact List.pairwise_cons.mpr ⟨by simpa [same] using above, tail⟩
      · rename_i differ
        refine List.pairwise_cons.mpr ⟨?_, ih tail⟩
        intro other inside
        rcases (keysInsert key other value rest).mp inside with rfl | inside
        · exact Std.lt_of_le_of_ne (String.not_lt.mp notLess) differ
        · exact above other inside

theorem ascendingInsertAll {entries : Entries α} (h : entries.Ascending)
    (more : List (String × α)) : (entries.insertAll more).Ascending := by
  induction more generalizing entries with
  | nil => exact h
  | cons pair rest ih => exact ih (ascendingInsert h pair.1 pair.2)

theorem ascendingOfList (pairs : List (String × α)) : (ofList pairs).Ascending := by
  have start : Ascending ([] : Entries α) := List.Pairwise.nil
  exact ascendingInsertAll start pairs

theorem ascendingUnique {entries other : Entries α} (ascending : entries.Ascending)
    (ascendingToo : other.Ascending) (same : ∀ key, entries.find? key = other.find? key) :
    entries = other := by
  have members : ∀ pair, pair ∈ entries ↔ pair ∈ other := by
    rintro ⟨key, value⟩
    constructor
    · intro inside
      exact findSomeMember ((same key).symm.trans (findMember ascending.nodup inside))
    · intro inside
      exact findSomeMember ((same key).trans (findMember ascendingToo.nodup inside))
  have once : ∀ {entries : Entries α}, entries.Ascending → List.Nodup entries := fun ascending =>
    (List.pairwise_map.mp ascending.nodup).imp fun differ same => differ (congrArg Prod.fst same)
  have shuffled : entries.Perm other :=
    (List.perm_ext_iff_of_nodup (once ascending) (once ascendingToo)).mpr members
  refine shuffled.eq_of_pairwise ?_ (List.pairwise_map.mp ascending) (List.pairwise_map.mp ascendingToo)
  intro a b _ _ less greater
  exact absurd greater (String.lt_asymm less)

theorem ofListAscending {entries : Entries α} (ascending : entries.Ascending) :
    ofList entries = entries := by
  refine ascendingUnique (ascendingOfList entries) ascending ?_
  intro key
  rw [findOfList, lastOfDistinct ascending.nodup]

theorem keysMapValues {β : Type} (f : α → β) (entries : Entries α) :
    (entries.mapValues f).keys = entries.keys := by
  rw [keys, mapValues, List.map_map]
  rfl

theorem findMapValues {β : Type} (f : α → β) (entries : Entries α) (key : String) :
    (entries.mapValues f).find? key = (entries.find? key).map f := by
  induction entries with
  | nil => rfl
  | cons pair rest ih =>
    rw [mapValues, List.map_cons, findCons, findCons, ← mapValues, ih]
    by_cases same : pair.1 = key <;> simp [same]

theorem Ascending.mapValues {β : Type} {entries : Entries α} (h : entries.Ascending) (f : α → β) :
    (entries.mapValues f).Ascending := by
  rw [Ascending, keysMapValues]
  exact h

theorem memberOfList {pairs : List (String × α)} {pair : String × α}
    (inside : pair ∈ ofList pairs) : pair ∈ pairs := by
  have found : (ofList pairs).find? pair.1 = some pair.2 :=
    findMember (ascendingOfList pairs).nodup inside
  rw [findOfList] at found
  exact lastOfMember found

end Entries

@[ext]
structure Table (α : Type) where
  entries : Entries α
  ascending : entries.Ascending
  deriving DecidableEq, Repr

namespace Table

variable {α : Type}

def empty : Table α := ⟨[], List.Pairwise.nil⟩

def insertAll (table : Table α) (more : List (String × α)) : Table α :=
  ⟨table.entries.insertAll more, Entries.ascendingInsertAll table.ascending more⟩

def ofList (pairs : List (String × α)) : Table α := empty.insertAll pairs

theorem ofListAscending {entries : Entries α} (ascending : entries.Ascending) :
    ofList entries = ⟨entries, ascending⟩ := Table.ext (Entries.ofListAscending ascending)

theorem ofListEntries (table : Table α) : ofList table.entries = table :=
  ofListAscending table.ascending

end Table

end LeveledLogging
