/-
Module: ServiceLifecycle.Proofs.Source.LayerPrecedence
Purpose: Which of its sources a loaded deployment owes each of its fields to.
Main exports: Layer, Layer.root?, Layer.services?, Loader.FilesRead, Loader.stack,
  Loader.load_eq_ok_iff, Loader.load_eq_ok_iff_highest, Loader.highest_layers_decide
-/
import ServiceLifecycle.Proofs.Deployment.RoundTrip
import ServiceLifecycle.Proofs.Source.Overlay

namespace ServiceLifecycle

/-!
A deployment has two fields, and no table is read into either of them.  So nothing is merged in the
end: each field is what the highest layer says that has it, as a whole.  A file or the variables
have a field if it is there; a deployment that is laid over them has the root directory if there is
one and the services if there are any, and otherwise keeps silent.
-/

/-- One source of a deployment. -/
inductive Layer where
  /-- What is read from a file or from the environment variables. -/
  | tree (entries : Table)
  /-- A deployment that is laid over what is read. -/
  | override (deployment : Deployment)

namespace Layer

/-- What a layer says of the root directory. -/
def root? : Layer → Option Value
  | tree entries => entries.get? "application_root"
  | override deployment => deployment.applicationRoot.map Value.text

/-- What a layer says of the services: a deployment without services nothing, and any other the
written forms of all of them. -/
def services? : Layer → Option Value
  | tree entries => entries.get? "services"
  | override deployment =>
      if deployment.services = [] then none
      else some (.list (deployment.services.map Declaration.encode))

/-- The layer as a tree. -/
def entries : Layer → Table
  | tree entries => entries
  | override deployment => Loader.overrideTree deployment

theorem get?_entries (layer : Layer) :
    layer.entries.get? "application_root" = layer.root? ∧
      layer.entries.get? "services" = layer.services? := by
  cases layer with
  | tree entries => exact ⟨rfl, rfl⟩
  | override deployment =>
      obtain ⟨entries, written, -, root, services⟩ := deployment.encode_eq
      rw [Layer.entries, Loader.overrideTree, written]
      exact ⟨root, services⟩

end Layer

section Fields

variable {merged entry : Option Value}

theorem AlikeOrTables.textRead_iff (alike : AlikeOrTables merged entry) {text : Option String} :
    TextRead merged text ↔ TextRead entry text := by
  cases alike with
  | alike => exact Iff.rfl
  | tables => exact iff_of_false (fun read => nomatch read) (fun read => nomatch read)

theorem AlikeOrTables.servicesRead_iff (alike : AlikeOrTables merged entry)
    {services : List Declaration} :
    Deployment.ServicesRead merged services ↔ Deployment.ServicesRead entry services := by
  cases alike with
  | alike => exact Iff.rfl
  | tables => exact iff_of_false (fun read => nomatch read) (fun read => nomatch read)

end Fields

namespace Loader

variable {loader : Loader} {surroundings : Surroundings} {deployment : Deployment}

/-- The trees of a main file and, if there is one, of the file of the profile beside it. -/
inductive MainRead (loader : Loader) (surroundings : Surroundings) (path : String) :
    List Table → Prop where
  | alone {tree : Table} (read : loader.readTree surroundings path = .ok tree)
      (missing : ∀ beside, loader.profileFile? path = some beside →
        surroundings.files.exists? beside = false) : MainRead loader surroundings path [tree]
  | profiled {beside : String} {tree above : Table}
      (read : loader.readTree surroundings path = .ok tree)
      (named : loader.profileFile? path = some beside)
      (present : surroundings.files.exists? beside = true)
      (readAbove : loader.readTree surroundings beside = .ok above) :
      MainRead loader surroundings path [tree, above]

/-- The trees of the files, from the main file up.  The main file is the one that is named, which
has to exist, or the first in the directories, if any has one. -/
inductive FilesRead (loader : Loader) (surroundings : Surroundings) : List Table → Prop where
  | named {path : String} {trees : List Table} (given : loader.file = some path)
      (present : surroundings.files.exists? path = true)
      (read : loader.MainRead surroundings path trees) : FilesRead loader surroundings trees
  | searched {path : String} {trees : List Table} (unnamed : loader.file = none)
      (found : loader.findMainFile? surroundings = some path)
      (read : loader.MainRead surroundings path trees) : FilesRead loader surroundings trees
  | nothing (unnamed : loader.file = none) (missing : loader.findMainFile? surroundings = none) :
      FilesRead loader surroundings []

/-- The layers of a loader, by ascending priority. -/
def stack (loader : Loader) (environment : Variables) (trees : List Table) : List Layer :=
  trees.map Layer.tree ++ (if loader.readsVariables then [Layer.tree environment.tree] else []) ++
    loader.overrides.map Layer.override

theorem nodup_keys_readTree {path : String} {tree : Table}
    (read : loader.readTree surroundings path = .ok tree) : tree.keys.Nodup := by
  rw [readTree] at read
  split at read
  · split at read
    · split at read
      · rename_i carried
        cases read
        obtain ⟨document, parsed, carried⟩ := Option.bind_eq_some_iff.mp carried
        obtain ⟨draft, -, same⟩ := Option.bind_eq_some_iff.mp parsed
        cases same
        rw [Value.keys_carriedEntries? carried]
        exact (Entries.ascends_sorted _).nodup
      · cases read
    · cases read
      exact List.nodup_nil
  · cases read

theorem FilesRead.nodup_keys {trees : List Table} (read : loader.FilesRead surroundings trees) :
    ∀ tree ∈ trees, tree.keys.Nodup := by
  have main {path : String} {trees : List Table} (read : loader.MainRead surroundings path trees) :
      ∀ tree ∈ trees, tree.keys.Nodup := by
    cases read with
    | alone read =>
        exact List.forall_mem_cons.mpr ⟨nodup_keys_readTree read, List.forall_mem_nil _⟩
    | profiled read _ _ readAbove =>
        exact List.forall_mem_cons.mpr ⟨nodup_keys_readTree read, List.forall_mem_cons.mpr
          ⟨nodup_keys_readTree readAbove, List.forall_mem_nil _⟩⟩
  cases read with
  | named _ _ read => exact main read
  | searched _ _ read => exact main read
  | nothing => exact List.forall_mem_nil _

theorem fileLayers_eq_ok_iff {path : String} {trees : List Table} :
    loader.fileLayers surroundings path = .ok trees ↔ loader.MainRead surroundings path trees := by
  rw [fileLayers, bind_eq_ok_iff]
  constructor
  · rintro ⟨tree, read, following⟩
    split at following
    · rename_i beside chosen
      obtain ⟨named, present⟩ := Option.filter_eq_some_iff.mp chosen
      obtain ⟨above, readAbove, same⟩ := bind_eq_ok_iff.mp following
      cases same
      exact .profiled read named present readAbove
    · rename_i chosen
      cases following
      refine .alone read fun beside named => ?_
      rw [named] at chosen
      simpa using chosen
  · intro read
    cases read with
    | @alone tree read missing =>
        refine ⟨tree, read, ?_⟩
        have chosen : (loader.profileFile? path).filter surroundings.files.exists? = none :=
          Option.filter_eq_none_iff.mpr fun beside named => by simp [missing beside named]
        rw [chosen]
        rfl
    | @profiled beside tree above read named present readAbove =>
        refine ⟨tree, read, ?_⟩
        have chosen : (loader.profileFile? path).filter surroundings.files.exists? = some beside :=
          Option.filter_eq_some_iff.mpr ⟨named, present⟩
        rw [chosen]
        exact bind_eq_ok_iff.mpr ⟨above, readAbove, rfl⟩

theorem foundLayers_eq_ok_iff {trees : List Table} :
    loader.foundLayers surroundings = .ok trees ↔ loader.FilesRead surroundings trees := by
  rw [foundLayers]
  constructor
  · intro found
    split at found
    · rename_i path given
      split at found
      · exact .named given ‹_› (fileLayers_eq_ok_iff.mp found)
      · cases found
    · rename_i unnamed
      split at found
      · exact .searched unnamed ‹_› (fileLayers_eq_ok_iff.mp found)
      · cases found
        exact .nothing unnamed ‹_›
  · intro read
    cases read with
    | named given present read =>
        rw [given]
        dsimp only
        rw [if_pos present]
        exact fileLayers_eq_ok_iff.mpr read
    | searched unnamed found read =>
        rw [unnamed, found]
        exact fileLayers_eq_ok_iff.mpr read
    | nothing unnamed missing => rw [unnamed, missing]

theorem layers_eq_ok_iff {tables : List Table} :
    loader.layers surroundings = .ok tables ↔ ∃ trees, loader.FilesRead surroundings trees ∧
      tables = (loader.stack surroundings.environment trees).map Layer.entries := by
  rw [layers, bind_eq_ok_iff]
  refine exists_congr fun trees => and_congr foundLayers_eq_ok_iff ?_
  have written : (loader.stack surroundings.environment trees).map Layer.entries =
      trees ++ (if loader.readsVariables then [surroundings.environment.tree] else []) ++
        loader.overrides.map overrideTree := by
    rw [stack, List.map_append, List.map_append, List.map_map, List.map_map]
    cases loader.readsVariables <;> simp [Function.comp_def, Layer.entries]
  rw [written]
  exact ⟨fun same => (Except.ok.inj same).symm, fun same => congrArg Except.ok same.symm⟩

/-- Loading succeeds if the layers can be read, and what is merged is a valid deployment. -/
theorem load_eq_ok_iff : loader.load surroundings = .ok deployment ↔
    ∃ tables, loader.layers surroundings = .ok tables ∧
      Deployment.decode (.table (merged tables)) = .ok deployment ∧
      deployment.validate = .ok () := by
  rw [load, bind_eq_ok_iff]
  refine exists_congr fun tables => and_congr_right fun _ => ?_
  cases Deployment.decode (.table (merged tables)) with
  | error fault => exact iff_of_false (fun same => nomatch same) (fun same => nomatch same.1)
  | ok other =>
      dsimp only
      rw [bind_eq_ok_iff]
      constructor
      · rintro ⟨_, valid, ⟨⟩⟩
        exact ⟨rfl, valid⟩
      · rintro ⟨⟨⟩, valid⟩
        exact ⟨(), valid, rfl⟩

theorem FilesRead.nodup_keys_stack {trees : List Table} {environment : Variables}
    (read : loader.FilesRead surroundings trees) :
    ∀ tree ∈ (loader.stack environment trees).map Layer.entries, tree.keys.Nodup := by
  rw [List.forall_mem_map]
  intro layer member
  cases layer with
  | override deployment =>
      obtain ⟨entries, written, ascends, -, -⟩ := deployment.encode_eq
      rw [Layer.entries, overrideTree, written]
      exact ascends.nodup
  | tree entries =>
      rw [stack, List.mem_append, List.mem_append] at member
      rcases member with (file | surrounding) | override
      · obtain ⟨tree, present, same⟩ := List.mem_map.mp file
        cases same
        exact read.nodup_keys _ present
      · split at surrounding
        · cases List.mem_singleton.mp surrounding
          exact (Variables.ascends_tree environment).nodup
        · cases surrounding
      · obtain ⟨deployment, -, same⟩ := List.mem_map.mp override
        cases same

theorem highest?_entries (layers : List Layer) (key : String) :
    highest? (Entries.get? key) (layers.map Layer.entries) =
      highest? (fun layer => layer.entries.get? key) layers := by
  rw [highest?, highest?, ← List.map_reverse, List.findSome?_map]
  rfl

/-- What is merged is a deployment if the highest layers that have a field have one that can be
read. -/
theorem decode_merged_iff {layers : List Layer}
    (distinct : ∀ tree ∈ layers.map Layer.entries, tree.keys.Nodup) :
    Deployment.decode (.table (merged (layers.map Layer.entries))) = .ok deployment ↔
      TextRead (highest? Layer.root? layers) deployment.applicationRoot ∧
      Deployment.ServicesRead (highest? Layer.services? layers) deployment.services := by
  rw [Deployment.decode_table_iff (ascends_merged _).nodup,
    (merged_alike distinct "application_root").textRead_iff,
    (merged_alike distinct "services").servicesRead_iff, highest?_entries, highest?_entries,
    funext fun layer => (Layer.get?_entries layer).1,
    funext fun layer => (Layer.get?_entries layer).2]

theorem load_eq_ok_iff_highest : loader.load surroundings = .ok deployment ↔
    ∃ trees, loader.FilesRead surroundings trees ∧
      TextRead (highest? Layer.root? (loader.stack surroundings.environment trees))
        deployment.applicationRoot ∧
      Deployment.ServicesRead
        (highest? Layer.services? (loader.stack surroundings.environment trees))
        deployment.services ∧
      deployment.validate = .ok () := by
  rw [load_eq_ok_iff]
  constructor
  · rintro ⟨tables, layered, decoded, valid⟩
    obtain ⟨trees, read, rfl⟩ := layers_eq_ok_iff.mp layered
    obtain ⟨root, services⟩ := (decode_merged_iff read.nodup_keys_stack).mp decoded
    exact ⟨trees, read, root, services, valid⟩
  · rintro ⟨trees, read, root, services, valid⟩
    exact ⟨_, layers_eq_ok_iff.mpr ⟨trees, read, rfl⟩,
      (decode_merged_iff read.nodup_keys_stack).mpr ⟨root, services⟩, valid⟩

/-- An override with services hides what the layers below it say of them, if no override after it
has services. -/
theorem highest?_services_override {environment : Variables} {trees : List Table}
    {before after : List Deployment} {override : Deployment}
    (given : loader.overrides = before ++ override :: after) (listed : override.services ≠ [])
    (silent : ∀ later ∈ after, later.services = []) :
    highest? Layer.services? (loader.stack environment trees) =
      some (.list (override.services.map Declaration.encode)) := by
  have split : loader.stack environment trees = ({ loader with overrides := before } : Loader).stack
      environment trees ++ .override override :: after.map Layer.override := by
    rw [stack, stack, given, List.map_append, List.map_cons, ← List.append_assoc]
  refine highest?_eq_some_iff.mpr ⟨_, _, _, split, if_neg listed, ?_⟩
  intro layer member
  obtain ⟨later, present, rfl⟩ := List.mem_map.mp member
  exact if_pos (silent later present)

/-- An override that says nothing changes nothing. -/
theorem load_silent_override {before after : List Deployment}
    (given : loader.overrides = before ++ after) :
    ({ loader with overrides := before ++ {} :: after } : Loader).load surroundings =
      loader.load surroundings := by
  have files : ({ loader with overrides := before ++ {} :: after } : Loader).foundLayers
      surroundings = loader.foundLayers surroundings := rfl
  rw [load, load, layers, layers, files]
  cases loader.foundLayers surroundings with
  | error fault => rfl
  | ok found =>
      have same (lower : List Table) : merged (lower ++ (before ++ {} :: after).map overrideTree) =
          merged (lower ++ loader.overrides.map overrideTree) := by
        rw [given, List.map_append, List.map_append, List.map_cons, ← List.append_assoc,
          ← List.append_assoc]
        exact merged_nil_between _ _
      have alike (lower : List Table) :
          (lower ++ (before ++ {} :: after).map overrideTree).filter (fun tree => !tree.isEmpty) =
            (lower ++ loader.overrides.map overrideTree).filter fun tree => !tree.isEmpty := by
        have empty : overrideTree {} = [] := rfl
        rw [given, List.map_append, List.map_append, List.map_cons, empty, List.filter_append,
          List.filter_append, List.filter_append, List.filter_append,
          List.filter_cons_of_neg (by decide)]
      simp only [bind, Except.bind, pure, Except.pure, same, alike]

/-- A deployment is loaded if and only if the files can be read, each of its fields is what the
highest layer has that has the field, as a whole, and it is valid.  The layers ascend from the main
file over the file of the profile and the variables to the overrides in their order.  The services
of the last override that has any are loaded as they are, unless a setting takes the place of a
field in the written form of one.  An override that says nothing can be put anywhere among the
others; it changes nothing, not even the fault of a loader that fails. -/
theorem highest_layers_decide (loader : Loader) (surroundings : Surroundings) :
    (∀ deployment, loader.load surroundings = .ok deployment ↔
      ∃ trees, loader.FilesRead surroundings trees ∧
        TextRead (highest? Layer.root? (loader.stack surroundings.environment trees))
          deployment.applicationRoot ∧
        Deployment.ServicesRead
          (highest? Layer.services? (loader.stack surroundings.environment trees))
          deployment.services ∧
        deployment.validate = .ok ()) ∧
    (∀ deployment before override after, loader.load surroundings = .ok deployment →
      loader.overrides = before ++ override :: after → override.services ≠ [] →
      (∀ later ∈ after, later.services = []) →
      (∀ declaration ∈ override.services, declaration.IsPlain) →
      deployment.services = override.services) ∧
    ∀ before after, loader.overrides = before ++ after →
      ({ loader with overrides := before ++ {} :: after } : Loader).load surroundings =
        loader.load surroundings := by
  refine ⟨fun _ => load_eq_ok_iff_highest, ?whole, fun _ _ => load_silent_override⟩
  intro deployment before override after loaded given listed silent plain
  obtain ⟨trees, -, -, services, -⟩ := load_eq_ok_iff_highest.mp loaded
  rw [highest?_services_override given listed silent] at services
  exact services.unique (Deployment.servicesRead_encode plain)

/-- A main file, the file of a profile beside it, and variables. -/
def staffed : Surroundings where
  files := { contents :=
    [("keystone.toml", "application_root = \"/main\"\n[[services]]\nname = \"Clock\"\n"),
     ("keystone.night.toml", "[[services]]\nname = \"Watch\"\n")] }
  environment := [("KEYSTONE_PROFILE", "night"), ("KEYSTONE_APPLICATION_ROOT", "/env")]

/-- A service of an override. -/
def mailer : Declaration :=
  { name := "Mailer", settings := [("port", .int 25)] }

/-- A loader with overrides of which only the second has services. -/
def staffing : Loader :=
  { profile := some "night"
    overrides := [{ applicationRoot := some "/first" }, { services := [mailer] },
      { applicationRoot := some "/last" }] }

/-- The root directory is the last one that is given, the services of the files are hidden, and a
silent override before the last one does no harm. -/
theorem highest_layers_decide_staffing :
    ∃ deployment, staffing.load staffed = .ok deployment ∧
      deployment.applicationRoot = some "/last" ∧ deployment.services = [mailer] ∧
      ({ staffing with overrides :=
          [{ applicationRoot := some "/first" }, { services := [mailer] }, {},
            { applicationRoot := some "/last" }] } : Loader).load staffed = .ok deployment := by
  have rooted :
      (staffing.load staffed).toOption.bind Deployment.applicationRoot = some "/last" := by
    decide +kernel
  cases loaded : staffing.load staffed with
  | error fault =>
      rw [loaded] at rooted
      cases rooted
  | ok deployment =>
      rw [loaded] at rooted
      obtain ⟨-, whole, silent⟩ := highest_layers_decide staffing staffed
      have plain : mailer.IsPlain := by
        refine ⟨List.pairwise_singleton _ _, rfl, rfl, ?_⟩
        intro key value found
        cases List.mem_singleton.mp (Entries.mem_of_get? found)
        rfl
      refine ⟨deployment, rfl, rooted, ?services, ?again⟩
      case services =>
        exact whole deployment [{ applicationRoot := some "/first" }] { services := [mailer] }
          [{ applicationRoot := some "/last" }] loaded rfl (List.cons_ne_nil _ _)
          (List.forall_mem_singleton.mpr rfl) (List.forall_mem_singleton.mpr plain)
      case again =>
        exact (silent [{ applicationRoot := some "/first" }, { services := [mailer] }]
          [{ applicationRoot := some "/last" }] rfl).trans loaded

end Loader

end ServiceLifecycle
