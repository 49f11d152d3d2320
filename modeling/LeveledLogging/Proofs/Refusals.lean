import LeveledLogging.Proofs.Configurations
/-! What setting a value leaves behind when it fails. A key that is refused changes no answer: at most the
layer has an empty document now, which counts only over something that is no object. A value that could
not be saved has been set all the same (`failedSetLeaves`). -/
namespace LeveledLogging

namespace Document

theorem mergeAllAppend (below above : List Document) :
    mergeAll (below ++ above) = above.foldl merge (mergeAll below) := List.foldl_append

theorem mergeAllBlank (below : List Document) {above : List Document}
    (ordered : ∀ document ∈ above, document.Ordered) :
    mergeAll (below ++ empty :: above) = mergeAll (below ++ above) ∨
      above = [] ∧ (mergeAll below).isObject = false ∧
        mergeAll (below ++ empty :: above) = empty := by
  rw [mergeAllAppend, mergeAllAppend, List.foldl_cons]
  cases kind : (mergeAll below).isObject with
  | true => exact .inl (by rw [mergeOntoEmpty kind])
  | false =>
    rw [mergeReplaces (notObjectIff.mp kind)]
    cases above with
    | nil => exact .inr ⟨rfl, rfl, rfl⟩
    | cons top rest =>
      refine .inl ?_
      rw [List.foldl_cons, List.foldl_cons, mergeOntoSingle kind (ordered top List.mem_cons_self)]

end Document

namespace Layer

theorem split (layer : Layer) : ∃ below above, all = below ++ layer :: above ∧
    (∀ other ∈ below, other.rank < layer.rank) ∧ ∀ other ∈ above, layer.rank < other.rank := by
  cases layer with
  | standard => exact ⟨[], [.loaded, .set, .environment], rfl, by decide, by decide⟩
  | loaded => exact ⟨[.standard], [.set, .environment], rfl, by decide, by decide⟩
  | set => exact ⟨[.standard, .loaded], [.environment], rfl, by decide, by decide⟩
  | environment => exact ⟨[.standard, .loaded, .set], [], rfl, by decide, by decide⟩

end Layer

namespace Config

def withDocument (config : Config) (layer : Layer) : Config :=
  config.withLayer layer (some ((config.stored layer).getD .empty))

def Covered (config : Config) (layer : Layer) : Prop :=
  ∃ upper, layer.rank ≤ upper.rank ∧ (config.layer upper).isSome

/- Nothing that is asked is answered differently. The exception is a pile of layers that is no object,
with nothing on it from the layer on: the document of all layers may then be another. -/
structure KeepsAnswers (layer : Layer) (before after : Config) : Prop where
  settings : ∀ home, after.settings home = before.settings home
  get : ∀ (α : Type) key (read : Document → Except DecodeFault α),
    after.get key read = before.get key read
  merged : before.merged.isObject = true ∨ before.Covered layer → after.merged = before.merged

theorem withLayerSame {config : Config} {layer : Layer} {document : OrderedDocument}
    (found : config.stored layer = some document) :
    config.withLayer layer (some document) = config := by
  obtain ⟨standard, loaded, set, environment, file, autoSave⟩ := config
  cases layer <;> cases found <;> rfl

theorem mergedWithDocument (config : Config) (layer : Layer) :
    (config.withDocument layer).merged = config.merged ∨
      ¬ config.Covered layer ∧ config.merged.isObject = false ∧
        (config.withDocument layer).merged = .empty := by
  unfold withDocument
  cases found : config.stored layer with
  | some document => exact .inl (by rw [Option.getD_some, withLayerSame found])
  | none =>
    have absent : config.layer layer = none := Option.map_eq_none_iff.mpr found
    obtain ⟨below, above, all, lower, higher⟩ := layer.split
    have kept : ∀ layers : List Layer, (∀ other ∈ layers, other.rank ≠ layer.rank) →
        layers.filterMap (config.withLayer layer (some .empty)).layer =
          layers.filterMap config.layer := by
      intro layers differ
      refine List.filterMap_congr ?_
      intro other inside
      rw [layerWithLayer, if_neg fun same => differ other inside (congrArg Layer.rank same)]
    have blank : (config.withLayer layer (some .empty)).merged =
        .mergeAll (below.filterMap config.layer ++ .empty :: above.filterMap config.layer) := by
      rw [merged, all, List.filterMap_append, List.filterMap_cons, layerWithLayer, if_pos rfl,
        kept below fun other inside => Nat.ne_of_lt (lower other inside),
        kept above fun other inside => Nat.ne_of_gt (higher other inside)]
      rfl
    have without : config.merged =
        .mergeAll (below.filterMap config.layer ++ above.filterMap config.layer) := by
      rw [merged, all, List.filterMap_append, List.filterMap_cons, absent]
    have upper : ∀ document ∈ above.filterMap config.layer, document.Ordered := by
      intro document inside
      obtain ⟨other, _, there⟩ := List.mem_filterMap.mp inside
      exact ordered there
    rw [Option.getD_none, blank, without]
    rcases Document.mergeAllBlank (below.filterMap config.layer) upper with same | ⟨bare, kind, emptied⟩
    · exact .inl same
    · refine .inr ⟨?_, by rwa [bare, List.append_nil], emptied⟩
      rintro ⟨other, notBelow, there⟩
      have listed := other.allListed
      rw [all] at listed
      rcases List.mem_append.mp listed with inBelow | inRest
      · exact Nat.not_le_of_lt (lower other inBelow) notBelow
      · rcases List.mem_cons.mp inRest with rfl | inAbove
        · simp [absent] at there
        · have bareToo := List.filterMap_eq_nil_iff.mp bare other inAbove
          simp [bareToo] at there

theorem memberWithDocument (config : Config) (layer : Layer) (key : String) :
    (config.withDocument layer).merged.member? key = config.merged.member? key := by
  rcases mergedWithDocument config layer with same | ⟨_, kind, emptied⟩
  · rw [same]
  · rw [emptied]
    generalize config.merged = document at kind
    cases document with
    | object members => contradiction
    | _ => rfl

theorem settingsFromSection {config other : Config}
    (same : config.merged.member? "log" = other.merged.member? "log") (home : Option String) :
    config.settings home = other.settings home := by
  unfold settings
  rw [same]

theorem getWithDocument (config : Config) (layer : Layer) {α : Type} (key : String)
    (read : Document → Except DecodeFault α) :
    (config.withDocument layer).get key read = config.get key read := by
  obtain ⟨part, rest, parts⟩ := List.exists_cons_of_ne_nil (Text.splitNonempty '.' key)
  have nothing : Document.empty.get? key = none := by
    rw [Document.get?, parts]
    rfl
  unfold get
  congr 1
  funext other
  rw [withDocument, layerWithLayer]
  split
  · rename_i here
    subst here
    rw [Config.layer]
    cases found : config.stored other with
    | some document => rfl
    | none => simp [nothing, bind, Option.bind, OrderedDocument.empty]
  · rfl

theorem withDocumentKeeps (config : Config) (layer : Layer) :
    KeepsAnswers layer config (config.withDocument layer) where
  settings := settingsFromSection (memberWithDocument config layer "log")
  get _ := getWithDocument config layer
  merged := by
    intro seen
    rcases mergedWithDocument config layer with same | ⟨uncovered, kind, _⟩
    · exact same
    · rcases seen with object | covered
      · cases kind.symm.trans object
      · exact absurd covered uncovered

theorem setInRefused {config : Config} {layer : Layer} {key : String} {value : OrderedDocument}
    {e : LogError} (failed : (config.setIn layer key value).1 = .error e) :
    e = .config (.key key) ∧ "" ∈ Text.split '.' key ∧
      KeepsAnswers layer config (config.setIn layer key value).2 := by
  rcases setInCases config layer key value with ⟨_, done⟩ | ⟨incomplete, refused⟩
  · rw [done] at failed
    cases failed
  · rw [refused] at failed ⊢
    cases failed
    exact ⟨rfl, incomplete, withDocumentKeeps config layer⟩

theorem setInAutoSave (config : Config) (layer : Layer) (key : String) (value : OrderedDocument) :
    (config.setIn layer key value).2.autoSave = config.autoSave := by
  rcases setInCases config layer key value with ⟨_, same⟩ | ⟨_, same⟩ <;> rw [same]
  all_goals cases layer <;> rfl

theorem setInFound {config : Config} {layer : Layer} {key : String} {value : OrderedDocument}
    (done : (config.setIn layer key value).1 = .ok ()) :
    "" ∉ Text.split '.' key ∧
      ((config.setIn layer key value).2.layer layer).bind (Document.get? · key) =
        some value.document := by
  rcases setInCases config layer key value with ⟨complete, same⟩ | ⟨_, refused⟩
  · rw [same, layerWithLayer, if_pos rfl]
    exact ⟨complete, Document.followPut _ value.document _⟩
  · rw [refused] at done
    cases done

theorem setValueFails {α : Type} {write : α → Except DecodeFault OrderedDocument} {value : α}
    {document : OrderedDocument} (written : write value = .ok document) {config : Config}
    {files : FileSystem} {key : String} {e : LogError}
    (failed : (config.setValue files key write value).1 = .error e) :
    (config.setIn .set key document).1 = .error e ∨
      (config.setIn .set key document).1 = .ok () ∧ config.autoSave = true ∧
        (config.setIn .set key document).2.save files = .error e := by
  have kept := setInAutoSave config .set key document
  unfold setValue at failed
  rw [written] at failed
  dsimp only at failed
  split at failed
  · rename_i refused
    rw [refused]
    exact .inl failed
  · rename_i after done
    rw [done] at kept ⊢
    split at failed
    · rename_i saves
      split at failed
      · cases failed
      · rename_i unsaved
        cases failed
        exact .inr ⟨rfl, kept.symm.trans saves, unsaved⟩
    · cases failed

theorem failedSetLeaves (config : Config) (layer : Layer) (key : String) (files : FileSystem) :
    (∀ value e, (config.setIn layer key value).1 = .error e →
      e = .config (.key key) ∧ "" ∈ Text.split '.' key ∧
        KeepsAnswers layer config (config.setIn layer key value).2) ∧
    ∀ (α : Type) (write : α → Except DecodeFault OrderedDocument) value e,
      (config.setValue files key write value).1 = .error e →
      let after := (config.setValue files key write value).2.1
      (∃ fault, write value = .error fault ∧ e = .json fault ∧ after = config) ∨
      ∃ document, write value = .ok document ∧
        ((e = .config (.key key) ∧ "" ∈ Text.split '.' key ∧ KeepsAnswers .set config after) ∨
        ("" ∉ Text.split '.' key ∧ config.autoSave = true ∧ after.save files = .error e ∧
          config.setIn .set key document = (.ok (), after) ∧
          (after.layer .set).bind (Document.get? · key) = some document.document)) := by
  refine ⟨fun value e failed => setInRefused failed, ?_⟩
  intro α write value e failed after
  cases outcome : write value with
  | error fault =>
    have refused := setValueUnwritten outcome config files key
    rw [refused] at failed
    exact .inl ⟨fault, rfl, (Except.error.inj failed).symm, congrArg (fun r => r.2.1) refused⟩
  | ok document =>
    have sets : after = (config.setIn .set key document).2 := setValueSets outcome config files key
    refine .inr ⟨document, rfl, ?_⟩
    rw [sets]
    rcases setValueFails outcome failed with refused | ⟨done, saves, unsaved⟩
    · exact .inl (setInRefused refused)
    · obtain ⟨complete, found⟩ := setInFound done
      exact .inr ⟨complete, saves, unsaved, Prod.ext done rfl, found⟩

theorem refusedOrUnsaved :
    let config : Config := { (empty.setIn .set "log.verbosity" (.integer 1)).2 with autoSave := true }
    let files : FileSystem := ⟨[], []⟩
    let write : Option Bool → Except DecodeFault OrderedDocument
      | some b => .ok (.boolean b)
      | none => .error (.refused "number out of range")
    let unwritten := config.setValue files "log.trace" write none
    let refused := (config.setValue files "log..trace" write (some true)).2.1
    let unsaved := (config.setValue files "log.trace" write (some true)).2.1
    config.Reachable ∧
      (unwritten.1 = .error (.json (.refused "number out of range")) ∧ unwritten.2.1 = config) ∧
      (∀ home, refused.settings home = config.settings home) ∧ refused.merged = config.merged ∧
      config.setIn .set "log.trace" (.boolean true) = (.ok (), unsaved) ∧
      (unsaved.layer .set).bind (Document.get? · "log.trace") = some (.boolean true) := by
  intro config files write unwritten refused unsaved
  have reachable : config.Reachable :=
    .autoSave (.setIn .empty .set "log.verbosity" (.integer 1)) true
  have object : config.merged.isObject = true := rfl
  have fails := fun key value => (failedSetLeaves config .set key files).2 _ write value
  refine ⟨reachable, ⟨rfl, ?_⟩, ?_⟩
  · rcases fails "log.trace" none _ rfl with ⟨_, _, _, same⟩ | ⟨_, written, _⟩
    · exact same
    · cases written
  · rcases fails "log..trace" (some true) _ rfl with ⟨_, lost, _⟩ | ⟨_, _, ⟨_, _, kept⟩ | ⟨complete, _⟩⟩
    · cases lost
    · refine ⟨kept.settings, kept.merged (.inl object), ?_⟩
      rcases fails "log.trace" (some true) _ rfl with
        ⟨_, lost, _⟩ | ⟨_, written, ⟨_, incomplete, _⟩ | ⟨_, _, _, done, found⟩⟩
      · cases lost
      · exact absurd incomplete (by decide)
      · cases written
        exact ⟨done, found⟩
    · exact absurd complete (by decide)

/- A value that could not be saved shows in what is answered; and a refused key puts an empty document
over a list that was loaded. -/
theorem failedSetShows :
    let config : Config := { empty with autoSave := true }
    let files : FileSystem := ⟨[(["c.yml"], .file "[1]".toUTF8)], []⟩
    let unsaved := config.setValue files "log.verbosity" .ok (.integer 2 : OrderedDocument)
    config.Reachable ∧ unsaved.1 = .error (.config .noFile) ∧
      config.get "log.verbosity" Document.asInt32 = none ∧
      unsaved.2.1.get "log.verbosity" Document.asInt32 = some 2 ∧
      (config.settings none).toOption.map Settings.verbosity = some 0 ∧
      (unsaved.2.1.settings none).toOption.map Settings.verbosity = some 2 ∧
      ∃ loaded, load none files "c.yml" = .ok loaded ∧ loaded.merged.kind = "sequence" ∧
        (loaded.setIn .set "" (.integer 1)).1 = .error (.config (.key "")) ∧
        (loaded.setIn .set "" (.integer 1)).2.merged.kind = "map" := by
  intro config files unsaved
  have hides : (load none files "c.yml").toOption.any (fun loaded =>
      loaded.merged.kind = "sequence" ∧
        (loaded.setIn .set "" (.integer 1)).2.merged.kind = "map") = true := by decide +kernel
  obtain ⟨loaded, read, kinds⟩ := (Option.any_eq_true ..).mp hides
  obtain ⟨before, after⟩ := of_decide_eq_true kinds
  exact ⟨.autoSave .empty true, rfl, by decide +kernel, by decide +kernel, by decide +kernel,
    by decide +kernel, loaded, toOptionSome.mp read, before, rfl, after⟩

end Config

end LeveledLogging
