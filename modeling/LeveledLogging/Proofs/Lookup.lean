import LeveledLogging.Proofs.Configurations
/-! Looking up a key in a configuration, against the layers laid over each other. Of the values that the
layers have at a key some are standing and the rest, which lie lower, have been replaced. Looking up a
key should read what stands. In fact the lookup passes over every value that cannot be read, down to one
that can, which may be one that was replaced (`lookupAgreesExactly`). -/
namespace LeveledLogging.Config

def valuesAt (config : Config) (key : String) : List Document :=
  Layer.all.reverse.filterMap fun layer => (config.layer layer).bind (Document.get? · key)

def pile (config : Config) : List Document := Layer.all.reverse.filterMap config.layer ++ [.empty]

def standing (config : Config) (key : String) : List Document :=
  Document.standing (Text.split '.' key) config.pile

/- A value that is standing can be read, or no value can. -/
def ReadsStanding {α : Type} (config : Config) (key : String)
    (read : Document → Except DecodeFault α) : Prop :=
  (∃ value ∈ config.standing key, ∃ x, read value = .ok x) ∨
    ∀ value ∈ config.valuesAt key, ∃ fault, read value = .error fault

theorem getValues {α : Type} (config : Config) (key : String)
    (read : Document → Except DecodeFault α) :
    config.get key read = (config.valuesAt key).findSome? fun value => (read value).toOption := by
  rw [get, valuesAt, ← List.head?_filterMap, ← List.head?_filterMap, List.filterMap_filterMap]
  congr 2
  funext layer
  cases config.layer layer <;> rfl

theorem getFirstRead {α : Type} (config : Config) (key : String)
    (read : Document → Except DecodeFault α) (x : α) :
    config.get key read = some x ↔
      ∃ above value below, config.valuesAt key = above ++ value :: below ∧ read value = .ok x ∧
        ∀ higher ∈ above, ∃ fault, read higher = .error fault := by
  simp only [getValues, List.findSome?_eq_some_iff, toOptionSome, toOptionNone]

theorem getUnread {α : Type} (config : Config) (key : String)
    (read : Document → Except DecodeFault α) :
    config.get key read = none ↔
      ∀ value ∈ config.valuesAt key, ∃ fault, read value = .error fault := by
  simp only [getValues, List.findSome?_eq_none_iff, toOptionNone]

theorem pileOrdered (config : Config) : ∀ document ∈ config.pile, document.Ordered := by
  intro document inside
  rcases List.mem_append.mp inside with there | bottom
  · obtain ⟨layer, _, found⟩ := List.mem_filterMap.mp there
    exact ordered found
  · exact List.mem_singleton.mp bottom ▸ Document.emptyOrdered

theorem mergedPile (config : Config) : Document.laid config.pile = some config.merged := by
  rw [pile, List.filterMap_reverse, Document.laidMergeAll, merged]

theorem mergedStanding (config : Config) (key : String) :
    config.merged.get? key = Document.laid (config.standing key) := by
  rw [standing, ← Document.followLaid config.pileOrdered, mergedPile]
  rfl

theorem standingTopmost (config : Config) (key : String) :
    config.standing key <+: config.valuesAt key := by
  obtain ⟨part, rest, parts⟩ := List.exists_cons_of_ne_nil (Text.splitNonempty '.' key)
  have bottom : Document.follow (part :: rest) .empty = none := rfl
  have values : config.pile.filterMap (Document.follow (Text.split '.' key)) =
      config.valuesAt key := by
    rw [pile, List.filterMap_append, parts, List.filterMap_cons_none bottom, List.filterMap_nil,
      List.append_nil, List.filterMap_filterMap, ← parts]
    rfl
  rw [← values]
  exact Document.standingPrefix _ _

theorem getStanding {α : Type} {config : Config} {key : String}
    {read : Document → Except DecodeFault α} {value : Document} {x y : α}
    (stands : value ∈ config.standing key) (readable : read value = .ok y)
    (found : config.get key read = some x) : ∃ other ∈ config.standing key, read other = .ok x := by
  obtain ⟨replaced, values⟩ := standingTopmost config key
  rw [getValues, ← values, List.findSome?_append, Option.or_eq_some_iff] at found
  rcases found with first | ⟨unread, _⟩
  · obtain ⟨other, inside, done⟩ := List.exists_of_findSome?_eq_some first
    exact ⟨other, inside, toOptionSome.mp done⟩
  · obtain ⟨fault, failed⟩ := toOptionNone.mp (List.findSome?_eq_none_iff.mp unread value stands)
    cases readable.symm.trans failed

theorem getOnlyStanding {α : Type} (config : Config) (key : String)
    (read : Document → Except DecodeFault α) :
    (∀ x, config.get key read = some x → ∃ value ∈ config.standing key, read value = .ok x) ↔
      config.ReadsStanding key read := by
  constructor
  · intro only
    cases found : config.get key read with
    | none => exact .inr ((getUnread config key read).mp found)
    | some x =>
      obtain ⟨value, stands, readable⟩ := only x found
      exact .inl ⟨value, stands, x, readable⟩
  · rintro (⟨value, stands, y, readable⟩ | unread) x found
    · exact getStanding stands readable found
    · rw [(getUnread config key read).mpr unread] at found
      contradiction

theorem getMerged {α : Type} (config : Config) (key : String)
    (read : Document → Except DecodeFault α)
    (single : ∀ members, config.merged.get? key ≠ some (.object members)) :
    config.get key read = (config.merged.get? key).bind (fun value => (read value).toOption) ↔
      config.ReadsStanding key read := by
  have laid := mergedStanding config key
  rw [ReadsStanding, ← getUnread]
  cases found : config.merged.get? key with
  | none =>
    have nothing := Document.laidNone.mp (laid.symm.trans found)
    simp [nothing]
  | some value =>
    have kind : value.isObject = false :=
      Document.notObjectIff.mpr fun members same => single members (same ▸ found)
    have alone := (Document.standingAlone kind).mp (laid.symm.trans found)
    change config.standing key = [value] at alone
    rw [alone, Option.bind_some]
    cases outcome : read value with
    | error fault => simp [outcome, Except.toOption]
    | ok x =>
      obtain ⟨replaced, values⟩ := standingTopmost config key
      rw [alone] at values
      have first : config.get key read = some x :=
        (getFirstRead config key read x).mpr ⟨[], value, replaced, values.symm, outcome, by simp⟩
      simp [first, outcome, Except.toOption]

theorem lookupAgreesExactly (config : Config) (key : String) {α : Type}
    (read : Document → Except DecodeFault α) :
    config.merged.get? key = Document.laid (config.standing key) ∧
    ((∃ value, value.isObject = false ∧ config.standing key = [value]) ∨
      ∀ value ∈ config.standing key, value.isObject = true) ∧
    config.standing key <+: config.valuesAt key ∧
    ((∀ members, config.merged.get? key ≠ some (.object members)) →
      (config.get key read = (config.merged.get? key).bind (fun value => (read value).toOption) ↔
        config.ReadsStanding key read)) ∧
    ((∀ x, config.get key read = some x → ∃ value ∈ config.standing key, read value = .ok x) ↔
      config.ReadsStanding key read) ∧
    ∀ x, config.get key read = some x ↔
      ∃ above value below, config.valuesAt key = above ++ value :: below ∧ read value = .ok x ∧
        ∀ higher ∈ above, ∃ fault, read higher = .error fault :=
  ⟨mergedStanding config key, Document.standingKinds _ _, standingTopmost config key,
    getMerged config key read, getOnlyStanding config key read, getFirstRead config key read⟩

theorem topmostTextRead :
    let low := (empty.setIn .loaded "log.verbosity" (.integer 2)).2
    let config := (low.setIn .set "log.verbosity" (.text "high")).2
    config.Reachable ∧ config.merged.get? "log.verbosity" = some (.text "high") ∧
      config.get "log.verbosity" Document.asText = some "high" ∧
      config.get "log.verbosity" Document.asInt32 ≠
        (config.merged.get? "log.verbosity").bind fun value => value.asInt32.toOption := by
  intro low config
  have reachable : config.Reachable := .setIn (.setIn .empty .loaded _ (.integer 2)) .set _ (.text _)
  have parts : Text.split '.' "log.verbosity" = ["log", "verbosity"] := by decide
  have merged : config.merged.get? "log.verbosity" = some (.text "high") := by
    simp only [config, low, setIn, Document.place, Document.get?, parts]
    rfl
  have values : config.valuesAt "log.verbosity" = [.text "high", .integer 2] := by
    simp only [config, low, valuesAt, setIn, Document.place, Document.get?, parts]
    rfl
  have single : ∀ members, config.merged.get? "log.verbosity" ≠ some (.object members) := by
    simp [merged]
  have stands : config.standing "log.verbosity" = [.text "high"] := by
    simp only [config, low, standing, pile, setIn, Document.place, parts]
    rfl
  obtain ⟨_, _, _, asText, _⟩ := lookupAgreesExactly config "log.verbosity" Document.asText
  obtain ⟨_, _, _, asNumber, _⟩ := lookupAgreesExactly config "log.verbosity" Document.asInt32
  refine ⟨reachable, merged, ?_, ?_⟩
  · have readable : config.ReadsStanding "log.verbosity" Document.asText :=
      .inl ⟨.text "high", by simp [stands], "high", rfl⟩
    rw [(asText single).mpr readable, merged]
    rfl
  · intro agrees
    rcases (asNumber single).mp agrees with ⟨value, inside, n, read⟩ | unread
    · rw [stands, List.mem_singleton] at inside
      cases inside
      cases read
    · obtain ⟨fault, failed⟩ := unread (.integer 2) (by simp [values])
      cases failed

/- A value is returned that another one has replaced: at the key itself, or above it on the way. -/
theorem replacedValueReturned :
    let low := (empty.setIn .standard "log.verbosity" (.integer 2)).2
    let replaced := (low.setValue ⟨[], []⟩ "log.verbosity" .ok (.text "high" : OrderedDocument)).2.1
    let hidden := (low.setValue ⟨[], []⟩ "log" .ok (.text "off" : OrderedDocument)).2.1
    replaced.Reachable ∧ replaced.merged.get? "log.verbosity" = some (.text "high") ∧
      (Document.text "high").asInt32.toOption = none ∧
      replaced.get "log.verbosity" Document.asInt32 = some 2 ∧
      hidden.Reachable ∧ hidden.merged.get? "log.verbosity" = none ∧
      hidden.get "log.verbosity" Document.asInt32 = some 2 := by
  intro low replaced hidden
  have reachable : low.Reachable := .setIn .empty .standard _ (.integer 2)
  have parts : Text.split '.' "log.verbosity" = ["log", "verbosity"] := by decide
  have whole : Text.split '.' "log" = ["log"] := by decide
  refine ⟨.setValue reachable _ _ _ _, ?_, rfl, ?_, .setValue reachable _ _ _ _, ?_, ?_⟩
  all_goals
    simp only [hidden, replaced, low, get, setValue, setIn, Document.place, Document.get?, parts, whole]
    rfl

end LeveledLogging.Config
