import CommitLint.Proofs.UpwardPaths
import CommitLint.Workspace.Basic
import Mathlib

/-!
# What paths lead to

Where a path leads is told by the turn at each of its names, and a turn is told by what stands at
the location of the name and at the directory that has it. Two trees in which these are alike for
all names are alike for all paths.

* `DiffersAt.locate_iff` — a change at one location from which no way leads on;
* `locate_refill` — other contents of all files;
* `Sound.isEnd_of_locate` — in a sound tree no path leads to what is but a name;
* `follow_directories`, `locate_ofNames` — the path of a location.
-/

namespace CommitLint

namespace FileTree

variable {tree other : FileTree} {base place spot out : Location} {path : String}

theorem isDirectory_iff : tree.isDirectory place = true ↔ tree.get? place = some .directory := by
  rw [isDirectory, decide_eq_true_eq]

theorem lookup_eq_ok_iff {node : Node} :
    tree.lookup base path = .ok node ↔
      ∃ place, tree.locate base path = .ok place ∧ tree.get? place = some node := by
  rw [lookup]
  cases tree.locate base path with
  | error e => exact iff_of_false (fun h => by cases h) (fun ⟨_, h, _⟩ => by cases h)
  | ok place => cases stands : tree.get? place <;> simp [bind, Except.bind, stands]

theorem isFile_iff :
    tree.isFile base path = true ↔
      ∃ place content, tree.locate base path = .ok place ∧
      tree.get? place = some (.file content) := by
  have found : tree.isFile base path = true ↔
      ∃ content, tree.lookup base path = .ok (.file content) := by
    rw [isFile]
    cases tree.lookup base path with
    | error e => simp
    | ok node => cases node <;> simp
  rw [found, exists_comm]
  simp only [lookup_eq_ok_iff]

theorem pathExists_iff :
    tree.pathExists base path = true ↔
      ∃ place, tree.locate base path = .ok place ∧ tree.get? place ≠ none := by
  have found : tree.pathExists base path = true ↔ ∃ node, tree.lookup base path = .ok node := by
    rw [pathExists]
    cases tree.lookup base path <;> simp [Except.isOk, Except.toBool]
  rw [found]
  simp only [lookup_eq_ok_iff, Option.ne_none_iff_exists']
  constructor
  · rintro ⟨node, place, leads, stands⟩
    exact ⟨place, leads, node, stands⟩
  · rintro ⟨place, leads, node, stands⟩
    exact ⟨node, place, leads, stands⟩

theorem readBytes_of_locate (leads : tree.locate base path = .ok place) :
    tree.readBytes base path = tree.readAt place := by
  rw [readBytes, leads]
  rfl

/-- Where a path leads is where its names lead, if it is one that can be used at all. -/
theorem locate_eq_ok_iff :
    tree.locate base path = .ok out ↔
      ('\x00' ∉ path.toList ∧ path ≠ "" ∧ path.utf8ByteSize < maxPathSize) ∧
        tree.followLinks maxLinks (startOf base path) (namesIn path) = .ok out := by
  rw [locate]
  split_ifs with nul empty long <;> simp_all

/-! ### Trees that differ at one location -/

/-- Whether two trees differ at one location at most. -/
structure DiffersAt (tree other : FileTree) (spot : Location) : Prop where
  nodes : ∀ place, place ≠ spot → other.get? place = tree.get? place
  faults : ∀ place, place ≠ spot → other.fault? place = tree.fault? place

/-- Whether no way leads on from a location, neither as from a directory nor as by a link. -/
def IsEnd (tree : FileTree) (place : Location) : Prop :=
  ∀ node, tree.get? place = some node → node.leadsOn = false

theorem isEnd_of_free (free : tree.get? place = none) : tree.IsEnd place := by
  intro node stands
  rw [free] at stands
  cases stands

theorem isEnd_of_stands {node : Node} (stands : tree.get? place = some node)
    (ends : node.leadsOn = false) : tree.IsEnd place := by
  intro other found
  rw [stands] at found
  exact Option.some.inj found ▸ ends

theorem IsEnd.isDirectory (ends : tree.IsEnd place) : tree.isDirectory place = false := by
  rw [← Bool.not_eq_true, isDirectory_iff]
  intro directory
  cases ends _ directory

/-- A name whose location is an end leads to it, if it stands in a directory. -/
theorem enter_of_isEnd {name : String} (ends : tree.IsEnd (place ++ [name]))
    (fits : ¬name.utf8ByteSize > maxNameSize) (here : tree.isDirectory place = true) :
    ∃ cause, tree.enter place name = .ok (.last (place ++ [name]) cause) := by
  rw [enter, if_neg fits, here]
  cases stands : tree.get? (place ++ [name]) with
  | none => exact ⟨_, rfl⟩
  | some node =>
    cases node with
    | file _ => exact ⟨_, rfl⟩
    | device _ => exact ⟨_, rfl⟩
    | directory => cases ends _ stands
    | link _ => cases ends _ stands
    | twin _ => cases ends _ stands

namespace DiffersAt

variable (differs : tree.DiffersAt other spot) (ends : tree.IsEnd spot) (ends' : other.IsEnd spot)

include differs ends ends'

theorem isDirectory (place : Location) : other.isDirectory place = tree.isDirectory place := by
  by_cases here : place = spot
  · rw [here, ends.isDirectory, ends'.isDirectory]
  · rw [FileTree.isDirectory, FileTree.isDirectory, differs.nodes place here]

theorem barrier? (place : Location) : other.barrier? place = tree.barrier? place := by
  rw [FileTree.barrier?, FileTree.barrier?, differs.isDirectory ends ends']
  split
  · next here =>
    have apart : place ≠ spot := by
      rintro rfl
      rw [ends.isDirectory] at here
      cases here
    rw [differs.faults place apart]
  · rfl

/-- A name turns to the same in both trees, but for the cause why no way leads on. -/
theorem turn_cases (place : Location) (name : String) :
    other.turn place name = tree.turn place name ∨
      ∃ cause cause', tree.turn place name = .ok (.last spot cause) ∧
        other.turn place name = .ok (.last spot cause') := by
  rw [turn, turn, differs.barrier? ends ends']
  split
  · exact .inl rfl
  split
  · exact .inl rfl
  split
  · exact .inl rfl
  split
  · exact .inl rfl
  by_cases found : place ++ [name] = spot
  · by_cases fits : name.utf8ByteSize > maxNameSize
    · simp [enter, fits]
    by_cases here : tree.isDirectory place = true
    · have here' : other.isDirectory place = true := differs.isDirectory ends ends' place ▸ here
      obtain ⟨cause, entered⟩ := enter_of_isEnd (found ▸ ends) fits here
      obtain ⟨cause', entered'⟩ := enter_of_isEnd (found ▸ ends') fits here'
      rw [found] at entered entered'
      exact .inr ⟨cause, cause', entered, entered'⟩
    · have gone : ¬other.isDirectory place = true := differs.isDirectory ends ends' place ▸ here
      simp [enter, fits, here, gone]
  · rw [enter, enter, differs.isDirectory ends ends', differs.nodes _ found]
    exact .inl rfl

/-- No way leads elsewhere. The cause why it leads nowhere may be another. -/
theorem follow_iff {detour detour' : Location → String → List String → Except FileError Location}
    (same : ∀ place path rest out,
      detour' place path rest = .ok out ↔ detour place path rest = .ok out)
    (place : Location) (names : List String) (out : Location) :
    other.follow detour' place names = .ok out ↔ tree.follow detour place names = .ok out := by
  induction names generalizing place with
  | nil => rfl
  | cons name rest ih =>
    rw [follow, follow]
    rcases differs.turn_cases ends ends' place name with alike | ⟨cause, cause', turned, turned'⟩
    · rw [alike]
      split
      · rfl
      · exact ih _
      · rfl
      · exact same ..
    · rw [turned, turned']
      by_cases last : rest = [] <;> simp [last]

theorem followLinks_iff (links : Nat) (place : Location) (names : List String) (out : Location) :
    other.followLinks links place names = .ok out ↔
      tree.followLinks links place names = .ok out := by
  induction links generalizing place names out with
  | zero => exact differs.follow_iff ends ends' (fun _ _ _ _ => Iff.rfl) place names out
  | succ links ih =>
    rw [followLinks, followLinks]
    refine differs.follow_iff ends ends' (fun place path rest out => ?_) place names out
    split
    · rfl
    · exact ih _ _ _

/-- Every path leads to the same location in both trees. -/
theorem locate_iff (base : Location) (path : String) (out : Location) :
    other.locate base path = .ok out ↔ tree.locate base path = .ok out := by
  rw [locate_eq_ok_iff, locate_eq_ok_iff, differs.followLinks_iff ends ends']

end DiffersAt

/-- A tree that is filled where no directory stands differs there only. -/
theorem differsAt_fill (tree : FileTree) (spot : Location) (content : ByteArray) :
    tree.DiffersAt (tree.fill spot content) spot :=
  ⟨fun _ apart => get?_fill_of_ne tree content apart,
    fun place _ => fault?_fill tree spot place content⟩

/-! ### Other contents -/

/-- The node with another content, if it is a file. -/
def refillNode (content : ByteArray) : Node → Node
  | .file _ => .file content
  | other => other

/-- The tree in which the files at all locations have other contents. -/
def refill (tree : FileTree) (contents : Location → ByteArray) : FileTree :=
  { tree with nodes := tree.nodes.map fun e => (e.1, refillNode (contents e.1) e.2) }

section

variable (tree : FileTree) (contents : Location → ByteArray)

theorem get?_refill (place : Location) :
    (tree.refill contents).get? place = (tree.get? place).map (refillNode (contents place)) := by
  rw [get?, get?]
  split
  · rfl
  · rw [refill, List.find?_map]
    cases found : tree.nodes.find? fun e => e.1 = place with
    | none =>
      simp only [Function.comp_def, found]
      rfl
    | some e =>
      obtain rfl : e.1 = place := by simpa using List.find?_some found
      simp only [Function.comp_def, found]
      rfl

theorem isDirectory_refill (place : Location) :
    (tree.refill contents).isDirectory place = tree.isDirectory place := by
  rw [isDirectory, isDirectory, get?_refill]
  rcases tree.get? place with _ | node
  · rfl
  · cases node <;> rfl

theorem turn_refill (place : Location) (name : String) :
    (tree.refill contents).turn place name = tree.turn place name := by
  have barriers : (tree.refill contents).barrier? place = tree.barrier? place := by
    rw [barrier?, barrier?, isDirectory_refill]
    rfl
  have entered : (tree.refill contents).enter place name = tree.enter place name := by
    rw [enter, enter, isDirectory_refill, get?_refill]
    rcases tree.get? (place ++ [name]) with _ | node
    · rfl
    · cases node <;> rfl
  rw [turn, turn, barriers, entered]

theorem follow_refill (detour : Location → String → List String → Except FileError Location)
    (place : Location) (names : List String) :
    (tree.refill contents).follow detour place names = tree.follow detour place names := by
  induction names generalizing place with
  | nil => rfl
  | cons name rest ih => simp only [follow, turn_refill, ih]

theorem followLinks_refill (links : Nat) (place : Location) (names : List String) :
    (tree.refill contents).followLinks links place names = tree.followLinks links place names := by
  induction links generalizing place names with
  | zero => exact follow_refill ..
  | succ links ih => simp only [followLinks, follow_refill, ih]

theorem locate_refill (base : Location) (path : String) :
    (tree.refill contents).locate base path = tree.locate base path := by
  simp only [locate, followLinks_refill]

/-- Files stand where they stood. -/
theorem isFile_refill (base : Location) (path : String) :
    (tree.refill contents).isFile base path = tree.isFile base path := by
  rw [Bool.eq_iff_iff, isFile_iff, isFile_iff]
  simp only [locate_refill, get?_refill]
  refine exists_congr fun place => ?_
  constructor
  · rintro ⟨content, leads, found⟩
    obtain ⟨node, stands, same⟩ := Option.map_eq_some_iff.1 found
    cases node <;> cases same
    exact ⟨_, leads, stands⟩
  · rintro ⟨content, leads, stands⟩
    exact ⟨_, leads, by rw [stands]; rfl⟩

end

/-! ### Sound trees -/

/-- Whether something can have a name. -/
def IsFileName (name : String) : Prop :=
  Path.IsName name ∧ name ≠ ".." ∧ '\x00' ∉ name.toList ∧ name.utf8ByteSize ≤ maxNameSize

instance (name : String) : Decidable (IsFileName name) := inferInstanceAs (Decidable (_ ∧ _))

/-- Whether what stands at a location is but a name for what stands elsewhere. -/
def IsName (tree : FileTree) (place : Location) : Prop :=
  (∃ path, tree.get? place = some (.link path)) ∨ ∃ other, tree.get? place = some (.twin other)

/-- A tree in which all that stands has a name and stands in a directory, and a further name of a
file is one of a file that stands. -/
structure Sound (tree : FileTree) : Prop where
  named : ∀ e ∈ tree.nodes, ∀ name ∈ e.1, IsFileName name
  inside : ∀ e ∈ tree.nodes, tree.isDirectory e.1.dropLast = true
  twins : ∀ e ∈ tree.nodes, ∀ other, e.2 = .twin other →
    tree.get? other ≠ none ∧ tree.IsEnd other

theorem exists_mem_nodes (below : place ≠ []) {node : Node} (stands : tree.get? place = some node) :
    (place, node) ∈ tree.nodes := by
  rw [get?, if_neg below] at stands
  obtain ⟨e, found, rfl⟩ := Option.map_eq_some_iff.1 stands
  obtain rfl : e.1 = place := by simpa using List.find?_some found
  exact List.mem_of_find?_eq_some found

namespace Sound

variable (sound : tree.Sound)

include sound

theorem names {node : Node} (stands : tree.get? place = some node) :
    ∀ name ∈ place, IsFileName name := by
  by_cases below : place = []
  · simp [below]
  · exact sound.named _ (exists_mem_nodes below stands)

theorem above {name : String} {node : Node} (stands : tree.get? (place ++ [name]) = some node) :
    tree.isDirectory place = true := by
  have inside := sound.inside _ (exists_mem_nodes (by simp) stands)
  rwa [List.dropLast_concat] at inside

theorem isDirectory_dropLast (directory : tree.isDirectory place = true) :
    tree.isDirectory place.dropLast = true := by
  cases place using List.reverseRecOn with
  | nil => exact directory
  | append_singleton place name =>
    rw [List.dropLast_concat]
    exact sound.above (isDirectory_iff.1 directory)

/-- All on the way to a directory are directories. -/
theorem isDirectory_of_prefix (directory : tree.isDirectory place = true) {above : Location}
    (before : above <+: place) : tree.isDirectory above = true := by
  induction place using List.reverseRecOn with
  | nil => rwa [List.prefix_nil.1 before]
  | append_singleton place name ih =>
    rcases List.prefix_concat_iff.1 before with rfl | before
    · exact directory
    · exact ih (sound.above (isDirectory_iff.1 directory)) before

theorem isEnd_of_twin {other : Location} (stands : tree.get? place = some (.twin other)) :
    tree.get? other ≠ none ∧ tree.IsEnd other := by
  have below : place ≠ [] := by
    rintro rfl
    cases stands
  exact sound.twins _ (exists_mem_nodes below stands) other rfl

/-- From a directory a name turns to a directory, to an end, or to a link. -/
theorem turn_cases (here : tree.isDirectory place = true) {name : String} {turned : Turn}
    (turns : tree.turn place name = .ok turned) :
    (∃ next, turned = .to next ∧ tree.isDirectory next = true) ∨
      (∃ spot cause, turned = .last spot cause ∧ tree.IsEnd spot) ∨
      ∃ path, turned = .link path := by
  rw [turn] at turns
  split at turns
  · exact .inl ⟨place, (Except.ok.inj turns).symm, here⟩
  split at turns
  · cases turns
  split at turns
  · exact .inl ⟨place, (Except.ok.inj turns).symm, here⟩
  split at turns
  · exact .inl ⟨_, (Except.ok.inj turns).symm, sound.isDirectory_dropLast here⟩
  rw [enter] at turns
  split at turns
  · cases turns
  split at turns
  · cases turns
  split at turns <;> obtain rfl := Except.ok.inj turns
  · next stands => exact .inl ⟨_, rfl, isDirectory_iff.2 stands⟩
  · exact .inr (.inr ⟨_, rfl⟩)
  · next stands => exact .inr (.inl ⟨_, _, rfl, (sound.isEnd_of_twin stands).2⟩)
  · next stands => exact .inr (.inl ⟨_, _, rfl, isEnd_of_stands stands rfl⟩)
  · next stands => exact .inr (.inl ⟨_, _, rfl, isEnd_of_stands stands rfl⟩)
  · next free => exact .inr (.inl ⟨_, _, rfl, isEnd_of_free free⟩)

/-- Names lead from a directory to a directory or to an end, if the paths of links do so. -/
theorem isEnd_of_follow {detour : Location → String → List String → Except FileError Location}
    (detours : ∀ place path rest out, tree.isDirectory place = true →
      detour place path rest = .ok out → tree.isDirectory out = true ∨ tree.IsEnd out)
    {names : List String} (here : tree.isDirectory place = true)
    (leads : tree.follow detour place names = .ok out) :
    tree.isDirectory out = true ∨ tree.IsEnd out := by
  induction names generalizing place with
  | nil => exact .inl (Except.ok.inj leads ▸ here)
  | cons name rest ih =>
    rw [follow] at leads
    split at leads
    · cases leads
    · next next turns =>
      rcases sound.turn_cases here turns with ⟨_, same, directory⟩ | ⟨_, _, same, -⟩ | ⟨_, same⟩ <;>
        cases same
      exact ih directory leads
    · next spot cause turns =>
      rcases sound.turn_cases here turns with ⟨_, same, -⟩ | ⟨_, _, same, ends⟩ | ⟨_, same⟩ <;>
        cases same
      split at leads
      · exact .inr (Except.ok.inj leads ▸ ends)
      · cases leads
    · exact detours _ _ _ _ here leads

theorem isEnd_of_followLinks {links : Nat} {names : List String}
    (here : tree.isDirectory place = true) (leads : tree.followLinks links place names = .ok out) :
    tree.isDirectory out = true ∨ tree.IsEnd out := by
  induction links generalizing place names out with
  | zero => exact sound.isEnd_of_follow (fun _ _ _ _ _ h => by cases h) here leads
  | succ links ih =>
    refine sound.isEnd_of_follow (fun place path rest out here leads => ?_) here leads
    split at leads
    · cases leads
    · refine ih ?_ leads
      rw [startOf]
      split
      · rfl
      · exact here

/-- A path leads to a directory or to an end, and so to nothing that is but a name. -/
theorem isEnd_of_locate (here : tree.isDirectory base = true)
    (leads : tree.locate base path = .ok out) : tree.isDirectory out = true ∨ tree.IsEnd out := by
  refine sound.isEnd_of_followLinks ?_ (locate_eq_ok_iff.1 leads).2
  rw [startOf]
  split
  · rfl
  · exact here

end Sound

/-! ### Paths of locations -/

theorem IsFileName.busy {name : String} (fits : IsFileName name) : name ≠ "" ∧ name ≠ "." := by
  obtain ⟨⟨-, busy⟩, -⟩ := fits
  constructor <;> rintro rfl <;> revert busy <;> decide

theorem turn_of_isFileName {name : String} (fits : IsFileName name)
    (here : tree.isDirectory place = true) :
    tree.turn place name = match tree.fault? place with
      | some cause => .error cause
      | none => tree.enter place name := by
  rw [turn, if_neg fits.busy.1, barrier?, if_pos here]
  cases tree.fault? place with
  | some cause => rfl
  | none => exact (if_neg fits.busy.2).trans (if_neg fits.2.1)

theorem turn_of_directory {name : String} (fits : IsFileName name)
    (here : tree.isDirectory place = true) (free : tree.fault? place = none)
    (next : tree.isDirectory (place ++ [name]) = true) :
    tree.turn place name = .ok (.to (place ++ [name])) := by
  rw [turn_of_isFileName fits here, free]
  simp [enter, Nat.not_lt.2 fits.2.2.2, here, isDirectory_iff.1 next]

/-- What holds all along some names holds along those after the first. -/
theorem along_tail {p : Location → Prop} {name : String} {ns : Location}
    (all : ∀ above, above <+: name :: ns → p (base ++ above)) :
    ∀ above, above <+: ns → p (base ++ [name] ++ above) := by
  intro above before
  have further := all (name :: above) (List.cons_prefix_cons.2 ⟨rfl, before⟩)
  rwa [List.append_cons] at further

section

variable {ns : Location}
  {detour : Location → String → List String → Except FileError Location}

/-- Names from a directory lead through the directories on the way, if all can be looked into. -/
theorem follow_directories (named : ∀ name ∈ ns, IsFileName name)
    (directories : ∀ above, above <+: ns → tree.isDirectory (base ++ above) = true)
    (usable : ∀ above, above <+: ns → tree.fault? (base ++ above) = none) (rest : List String) :
    tree.follow detour base (ns ++ rest) = tree.follow detour (base ++ ns) rest := by
  induction ns generalizing base with
  | nil => rw [List.nil_append, List.append_nil]
  | cons name ns ih =>
    have here : tree.isDirectory base = true := by simpa using directories [] List.nil_prefix
    have free : tree.fault? base = none := by simpa using usable [] List.nil_prefix
    have next : tree.isDirectory (base ++ [name]) = true := directories [name] (by simp)
    rw [List.cons_append, follow, turn_of_directory (named name List.mem_cons_self) here free next,
      List.append_cons base name ns]
    exact ih (fun n mem => named n (List.mem_cons_of_mem _ mem))
      (along_tail (p := fun place => tree.isDirectory place = true) directories)
      (along_tail (p := fun place => tree.fault? place = none) usable)

theorem fault?_of_follow_cons {name : String} {rest : List String} (fits : IsFileName name)
    (here : tree.isDirectory place = true)
    (leads : tree.follow detour place (name :: rest) = .ok out) : tree.fault? place = none := by
  rw [follow, turn_of_isFileName fits here] at leads
  cases fault : tree.fault? place with
  | none => rfl
  | some cause =>
    rw [fault] at leads
    cases leads

/-- Names lead through no directory that cannot be looked into. -/
theorem fault?_of_follow {last : String} (named : ∀ name ∈ ns ++ [last], IsFileName name)
    (directories : ∀ above, above <+: ns → tree.isDirectory (base ++ above) = true)
    (leads : tree.follow detour base (ns ++ [last]) = .ok out) {above : Location}
    (before : above <+: ns) : tree.fault? (base ++ above) = none := by
  have here : tree.isDirectory base = true := by simpa using directories [] List.nil_prefix
  induction ns generalizing base above with
  | nil =>
    rw [List.prefix_nil.1 before, List.append_nil]
    exact fault?_of_follow_cons (named last (by simp)) here leads
  | cons name ns ih =>
    have fits : IsFileName name := named name List.mem_cons_self
    have free : tree.fault? base = none := fault?_of_follow_cons fits here leads
    have next : tree.isDirectory (base ++ [name]) = true := directories [name] (by simp)
    rw [List.cons_append, follow, turn_of_directory fits here free next] at leads
    rcases List.prefix_cons_iff.1 before with rfl | ⟨rest, rfl, inner⟩
    · rwa [List.append_nil]
    · rw [List.append_cons]
      exact ih (fun n mem => named n (List.mem_cons_of_mem _ mem))
        (along_tail (p := fun place => tree.isDirectory place = true) directories) leads inner next

end

/-- The path of a location in a directory leads where the last name leads there, if the path is not
too long and all directories on the way can be looked into. -/
theorem locate_ofNames (sound : tree.Sound) {ns : Location} {last : String}
    (directory : tree.isDirectory ns = true) (fits : IsFileName last) :
    tree.locate base (Path.ofNames (ns ++ [last])) = .ok out ↔
      (Path.ofNames (ns ++ [last])).utf8ByteSize < maxPathSize ∧
        (∀ above, above <+: ns → tree.fault? above = none) ∧
        tree.followLinks maxLinks ns [last] = .ok out := by
  have named : ∀ name ∈ ns ++ [last], IsFileName name := by
    intro name mem
    rcases List.mem_append.1 mem with mem | mem
    · exact sound.names (isDirectory_iff.1 directory) name mem
    · exact List.mem_singleton.1 mem ▸ fits
  have text : (Path.ofNames (ns ++ [last])).toList = Path.slashed (ns ++ [last]) :=
    Path.toList_ofNames (by simp)
  have noNul : '\x00' ∉ (Path.ofNames (ns ++ [last])).toList := by
    intro mem
    rw [text, Path.slashed, List.mem_flatMap] at mem
    obtain ⟨name, inside, mem⟩ := mem
    rcases List.mem_cons.1 mem with slash | mem
    · exact absurd slash (by decide)
    · exact (named name inside).2.2.1 mem
  have absolute : Path.isAbsolute (Path.ofNames (ns ++ [last])) = true := by
    rw [Path.isAbsolute, text]
    cases ns <;> rfl
  have nonempty : Path.ofNames (ns ++ [last]) ≠ "" := by
    intro empty
    rw [empty] at absolute
    cases absolute
  have parts : namesIn (Path.ofNames (ns ++ [last])) = "" :: (ns ++ [last]) := by
    rw [namesIn, text, Path.parts_slashed fun name mem => (named name mem).1, List.map_cons,
      List.map_map]
    simp [Function.comp_def]
  have directories : ∀ above, above <+: ns → tree.isDirectory ([] ++ above) = true :=
    fun above before => sound.isDirectory_of_prefix directory before
  have started (detour : Location → String → List String → Except FileError Location) :
      tree.follow detour [] ("" :: (ns ++ [last])) = tree.follow detour [] (ns ++ [last]) := rfl
  rw [locate_eq_ok_iff, startOf, if_pos absolute, parts, maxLinks, followLinks,
    followLinks, started]
  simp only [noNul, nonempty, not_false_iff, ne_eq, true_and]
  refine and_congr_right fun _ => ?_
  constructor
  · intro leads
    have usable : ∀ above, above <+: ns → tree.fault? above = none :=
      fun above before => fault?_of_follow named directories leads before
    rw [follow_directories (fun name mem => named name (List.mem_append_left _ mem)) directories
      usable] at leads
    exact ⟨usable, leads⟩
  · rintro ⟨usable, leads⟩
    rw [follow_directories (fun name mem => named name (List.mem_append_left _ mem)) directories
      usable]
    exact leads

end FileTree

end CommitLint
