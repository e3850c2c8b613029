/-
Module: ServiceLifecycle.Proofs.Source.BareSurroundings
Purpose: What is loaded where there is nothing to load.
Main exports: Path.names_join, Surroundings.IsBare, Surroundings.IsBare.load_eq,
  Surroundings.IsBare.leave
-/
import ServiceLifecycle.Proofs.Computation
import ServiceLifecycle.Logging.Setup

namespace ServiceLifecycle

/-!
A loader that is told nothing looks for a file in the default places and for variables with the
stem.  Where it finds neither it loads the deployment without services.  A log file may be opened
in one of these places while the program runs, but it is empty then, so that there is still
nothing to load.
-/

namespace Path

variable {directory name : String}

theorem cut_ne_nil (chars : List Char) : parts.cut chars ≠ [] := by
  cases chars with
  | nil => exact List.cons_ne_nil _ _
  | cons c rest =>
      rw [parts.cut]
      split
      · exact List.cons_ne_nil _ _
      · split <;> exact List.cons_ne_nil _ _

/-- A slash is a cut, whatever stands before and behind it. -/
theorem cut_append (before after : List Char) :
    parts.cut (before ++ '/' :: after) = parts.cut before ++ parts.cut after := by
  induction before with
  | nil => rfl
  | cons c rest inductionHypothesis =>
      rw [List.cons_append, parts.cut, parts.cut]
      split
      · rw [inductionHypothesis, List.cons_append]
      · obtain ⟨part, more, cuts⟩ := List.exists_cons_of_ne_nil (cut_ne_nil rest)
        rw [inductionHypothesis, cuts]
        rfl

theorem names_append : names (directory ++ "/" ++ name) = names directory ++ names name := by
  have chars : (directory ++ "/" ++ name).toList =
      directory.toList ++ '/' :: name.toList := by
    simp
  rw [names, parts, chars, cut_append, List.map_append, List.filter_append]
  rfl

/-- The names on a joined path are those of its two parts. -/
theorem names_join : names (join directory name) = names directory ++ names name := by
  have empty : names "" = [] := by decide
  rw [join]
  split
  · rename_i closed
    rcases Bool.or_eq_true_iff.mp closed with nothing | slash
    · rw [of_decide_eq_true nothing, String.empty_append, empty, List.nil_append]
    · -- The slash at the end is the one that separates the two.
      rw [← String.endsWith_toSlice, String.Slice.endsWith_string_iff, String.copy_toSlice] at slash
      obtain ⟨chars, ends⟩ := slash
      have same : directory = String.ofList chars ++ "/" := by
        rw [← String.toList_inj, String.toList_append, String.toList_ofList, ends]
      have inside : names (String.ofList chars ++ "/" ++ "") = names (String.ofList chars) := by
        rw [names_append, empty, List.append_nil]
      rw [String.append_empty] at inside
      rw [same, names_append, inside]
  · exact names_append

/-- The extension of a joined path is that of the name that was joined. -/
theorem extension?_join (plain : names name = [name]) (downwards : name ≠ "..") :
    extension? (join directory name) = (splitName name).2 := by
  rw [extension?, fileName?, names_join, plain, List.getLast?_concat]
  split
  · rename_i up
    exact absurd (Option.some.inj up) downwards
  · rfl

end Path

namespace Files

variable {files : Files} {place : Place} {path content : String}

theorem walkFrom?_eq {start : Place} (walked : files.walkFrom? start path = some place) :
    place = (Path.names path).foldl Place.step start := by
  rw [walkFrom?] at walked
  split at walked
  · cases walked
  · rw [Path.names]
    generalize Path.parts path = parts at walked ⊢
    induction parts generalizing start with
    | nil =>
        cases walked
        rfl
    | cons part rest inductionHypothesis =>
        rw [List.foldlM_cons] at walked
        obtain ⟨next, stepped, following⟩ := Option.bind_eq_some_iff.mp walked
        split at stepped
        · cases stepped
        · split at stepped
          · rename_i stays
            cases stepped
            have silent : part = "" ∨ part = "." := by simpa using stays
            have skipped : (part :: rest).filter (fun part => part != "" && part != ".") =
                rest.filter fun part => part != "" && part != "." :=
              List.filter_cons_of_neg (by rcases silent with rfl | rfl <;> decide)
            rw [skipped]
            exact inductionHypothesis following
          · rename_i leads
            cases stepped
            have followed : (part :: rest).filter (fun part => part != "" && part != ".") =
                part :: rest.filter fun part => part != "" && part != "." :=
              List.filter_cons_of_pos (by simpa using leads)
            rw [followed, List.foldl_cons]
            exact inductionHypothesis following

/-- A walk that arrives ends at the place that the path names. -/
theorem read?_eq (found : files.read? path = some content) :
    files.contentAt? (Place.ofPath path) = some content := by
  obtain ⟨place, walked, held⟩ := Option.bind_eq_some_iff.mp found
  rw [Place.ofPath, ← walkFrom?_eq walked]
  exact held

/-- A file that is opened for writing holds what it has held before, or it is new and empty. -/
theorem contentAt?_opened (found : (files.opened path).contentAt? place = some content) :
    files.contentAt? place = some content ∨ content = "" := by
  rw [opened, contentAt?] at found
  split at found
  · rename_i isNew
    obtain ⟨-, missing⟩ := Bool.and_eq_true_iff.mp isNew
    have nowhere : files.contentAt? (Place.ofPath path) = none :=
      Option.isNone_iff_eq_none.mp missing
    have absent : Entries.get? path files.contents = none := by
      refine Entries.get?_eq_none_iff.mpr fun member => ?_
      obtain ⟨file, held, same⟩ := List.mem_map.mp member
      rw [contentAt?, Option.map_eq_none_iff, List.find?_eq_none] at nowhere
      exact nowhere file held (by rw [same]; exact beq_self_eq_true _)
    rw [Entries.put_of_absent absent, List.find?_append, Option.map_or] at found
    cases earlier : files.contentAt? place with
    | some content =>
        rw [contentAt?] at earlier
        rw [earlier] at found
        exact .inl found
    | none =>
        rw [contentAt?] at earlier
        rw [earlier, Option.none_or, Option.map_eq_some_iff] at found
        obtain ⟨file, last, rfl⟩ := found
        have same := List.mem_of_find?_eq_some last
        rw [List.mem_singleton.mp same]
        exact .inr rfl
  · exact .inl found

end Files

/-- The places where a deployment is looked for when no other places are named. -/
def Loader.defaultPlaces (surroundings : Surroundings) : List Place :=
  (Loader.defaultSearchPaths surroundings).map fun directory =>
    Place.ofPath (Path.join directory "keystone.toml")

/-- There is no setting in the default places, and none among the variables. -/
structure Surroundings.IsBare (surroundings : Surroundings) : Prop where
  files : ∀ place ∈ Loader.defaultPlaces surroundings, ∀ content,
    surroundings.files.contentAt? place = some content → content = ""
  stemless : ∀ binding ∈ surroundings.environment, Source.afterStem? binding.1 = none

namespace Surroundings.IsBare

variable {surroundings : Surroundings}

theorem leave (bare : surroundings.IsBare) (setup : LogSetup) :
    (setup.leave surroundings).IsBare := by
  rw [LogSetup.leave]
  split
  · refine ⟨?_, bare.stemless⟩
    intro place member content found
    rcases Files.contentAt?_opened found with earlier | empty
    · exact bare.files place member content earlier
    · exact empty
  · exact bare

theorem profile_eq (bare : surroundings.IsBare) : surroundings.environment.profile? = none := by
  cases found : surroundings.environment.get? "KEYSTONE_PROFILE" with
  | none => rw [Variables.profile?, found]; rfl
  | some profile =>
      have named : (Source.afterStem? "KEYSTONE_PROFILE").isSome = true := by decide +kernel
      rw [bare.stemless _ (Entries.mem_of_get? found)] at named
      cases named

theorem tree_eq (bare : surroundings.IsBare) : surroundings.environment.tree = [] := by
  have empty : ∀ binding ∈ surroundings.environment, Source.variableTree binding = [] := by
    intro binding member
    rw [Source.variableTree, Source.settingPath?, bare.stemless binding member]
    rfl
  rw [Variables.tree]
  generalize surroundings.environment = environment at empty
  induction environment with
  | nil => rfl
  | cons binding rest inductionHypothesis =>
      rw [List.foldl_cons, empty binding List.mem_cons_self]
      exact inductionHypothesis fun other member => empty other (List.mem_cons_of_mem _ member)

/-- A file in a default place holds nothing. -/
theorem readTree_eq (bare : surroundings.IsBare) {directory : String}
    (member : directory ∈ Loader.defaultSearchPaths surroundings) :
    (Loader.new surroundings).readTree surroundings (Path.join directory "keystone.toml") =
      .ok [] := by
  have extension : Path.extension? (Path.join directory "keystone.toml") = some "toml" :=
    (Path.extension?_join (by decide +kernel) (by decide)).trans (by decide +kernel)
  rw [Loader.readTree, extension, Option.getD_some]
  cases found : (Loader.new surroundings).read? surroundings.files
      (Path.join directory "keystone.toml") with
  | none => rfl
  | some content =>
      have held : surroundings.files.read? (Path.join directory "keystone.toml") =
          some content := found
      rw [bare.files _ (List.mem_map_of_mem member) content (Files.read?_eq held)]
      rfl

theorem foundLayers_eq (bare : surroundings.IsBare) :
    (Loader.new surroundings).foundLayers surroundings = .ok [] ∨
      (Loader.new surroundings).foundLayers surroundings = .ok [[]] := by
  cases main : (Loader.new surroundings).findMainFile? surroundings with
  | none => exact .inl (by rw [Loader.foundLayers, main]; rfl)
  | some path =>
      right
      obtain ⟨directory, member, rfl⟩ := List.mem_map.mp (List.mem_of_find?_eq_some main)
      have profileless : (Loader.new surroundings).profileFile?
          (Path.join directory "keystone.toml") = none := by
        rw [Loader.profileFile?, Loader.new, bare.profile_eq]
        rfl
      have single : (Loader.new surroundings).foundLayers surroundings =
          (Loader.new surroundings).fileLayers surroundings
            (Path.join directory "keystone.toml") := by
        rw [Loader.foundLayers, main]
        rfl
      rw [single, Loader.fileLayers, bare.readTree_eq member, profileless]
      rfl

/-- Where there is nothing to load, the deployment without services is loaded. -/
theorem load_eq (bare : surroundings.IsBare) :
    (Loader.new surroundings).load surroundings = .ok {} := by
  have layers : ∃ found, (found = [] ∨ found = [[]]) ∧
      (Loader.new surroundings).layers surroundings =
        .ok (found ++ [surroundings.environment.tree] ++ []) := by
    rcases bare.foundLayers_eq with found | found
    · exact ⟨[], .inl rfl, by rw [Loader.layers, found]; rfl⟩
    · exact ⟨[[]], .inr rfl, by rw [Loader.layers, found]; rfl⟩
  obtain ⟨found, cases, layers⟩ := layers
  rw [bare.tree_eq] at layers
  rw [Loader.load, layers]
  rcases cases with rfl | rfl <;> rfl

end Surroundings.IsBare

end ServiceLifecycle
