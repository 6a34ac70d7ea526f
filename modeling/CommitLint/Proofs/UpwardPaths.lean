import CommitLint.Files.Path
import Mathlib

/-!
# The paths above a path

Going up works on the text of a path. What it means is told by the names of a path: the parts
between its slashes, without those that add nothing. Each step upwards takes away the last name and
keeps the text before it, so that the names of all paths above are the starts of the names.

* `parentReversed?_spec` — one step takes the last name away;
* `names_ancestors`, `prefix_of_mem_ancestors` — the names and the texts of all paths above a path;
* `ancestors_ofNames` — the paths above one that is written without anything idle.
-/

namespace CommitLint.Path

/-! ### Parts -/

theorem parts_ne_nil (cs : List Char) : parts cs ≠ [] := by
  fun_cases parts cs <;> simp_all

theorem parts_append (cs rest : List Char) :
    parts (cs ++ '/' :: rest) = parts cs ++ parts rest := by
  induction cs with
  | nil => rfl
  | cons c cs ih =>
    obtain ⟨first, others, whole⟩ := List.exists_cons_of_ne_nil (parts_ne_nil cs)
    by_cases slash : c = '/'
    · simp only [List.cons_append, parts, slash, if_true, ih]
    · simp only [List.cons_append, parts, slash, if_false, ih, whole]

theorem parts_of_not_mem {cs : List Char} (single : '/' ∉ cs) : parts cs = [cs] := by
  induction cs with
  | nil => rfl
  | cons c cs ih =>
    have other : c ≠ '/' := fun slash => single (slash ▸ List.mem_cons_self)
    simp only [parts, if_neg other, ih fun mem => single (List.mem_cons_of_mem _ mem)]

/-! ### Names -/

/-- Whether a part of a path, unless it is the first, adds nothing. -/
def isIdle (part : List Char) : Bool := part = [] || part = ['.']

/-- The parts of a path that are names. A path that starts with a dot keeps it. -/
def namesOf (cs : List Char) : List (List Char) :=
  match parts cs with
  | [] => []
  | first :: others => (if first = [] then [] else [first]) ++ others.filter (!isIdle ·)

def names (path : String) : List String := (namesOf path.toList).map String.ofList

theorem namesOf_append (cs rest : List Char) :
    namesOf (cs ++ '/' :: rest) = namesOf cs ++ (parts rest).filter (!isIdle ·) := by
  obtain ⟨first, others, whole⟩ := List.exists_cons_of_ne_nil (parts_ne_nil cs)
  simp only [namesOf, parts_append, whole, List.cons_append, List.filter_append, List.append_assoc]

theorem namesOf_of_not_mem {cs : List Char} (single : '/' ∉ cs) (ne : cs ≠ []) :
    namesOf cs = [cs] := by
  rw [namesOf, parts_of_not_mem single]
  simp [ne]

/-- A name after a slash is the last one. -/
theorem namesOf_append_name (cs : List Char) {name : List Char} (single : '/' ∉ name)
    (busy : isIdle name = false) :
    namesOf (cs ++ '/' :: name) = namesOf cs ++ [name] := by
  rw [namesOf_append, parts_of_not_mem single]
  simp [busy]

theorem namesOf_append_idle (cs : List Char) {name : List Char} (single : '/' ∉ name)
    (idle : isIdle name = true) :
    namesOf (cs ++ '/' :: name) = namesOf cs := by
  rw [namesOf_append, parts_of_not_mem single]
  simp [idle]

/-! ### Idle ends -/

theorem namesOf_dropIdle (cs : List Char) : namesOf (dropIdle cs).reverse = namesOf cs.reverse := by
  have slash (rest : List Char) : namesOf ('/' :: rest).reverse = namesOf rest.reverse := by
    rw [List.reverse_cons]
    exact namesOf_append_idle _ List.not_mem_nil rfl
  fun_induction dropIdle cs with
  | case1 => rfl
  | case2 rest _ ih => rw [ih, slash]
  | case3 rest ih =>
    have dot : namesOf ('.' :: '/' :: rest).reverse = namesOf rest.reverse := by
      rw [List.reverse_cons, List.reverse_cons, List.append_assoc]
      exact namesOf_append_idle _ (by decide) rfl
    rw [ih, slash, dot]
  | case4 => rfl

theorem dropIdle_suffix (cs : List Char) : dropIdle cs <:+ cs := by
  fun_induction dropIdle cs with
  | case1 => exact List.suffix_refl _
  | case2 rest _ ih => exact ih.trans (List.suffix_cons _ _)
  | case3 rest ih => exact ih.trans (List.suffix_cons _ _)
  | case4 => exact List.suffix_refl _

theorem getLast?_dropIdle (cs : List Char) : (dropIdle cs).getLast? = cs.getLast? := by
  fun_induction dropIdle cs with
  | case1 => rfl
  | case2 rest ne ih =>
    have nonempty : rest ≠ [] := fun empty => ne empty
    rw [ih, List.getLast?_cons_of_ne_nil nonempty]
  | case3 rest ih => rw [ih, List.getLast?_cons_cons]
  | case4 => rfl

theorem dropIdle_ne_dot (cs rest : List Char) : dropIdle cs ≠ '.' :: '/' :: rest := by
  fun_induction dropIdle cs <;> simp_all

/-! ### One step upwards -/

/-- A path from whose end nothing idle is left to drop ends with a name, which is no dot after a
slash. -/
theorem dropIdle_cases {cs : List Char} (notEmpty : dropIdle cs ≠ [])
    (notRoot : dropIdle cs ≠ ['/']) :
    ∃ name, name ≠ [] ∧ '/' ∉ name ∧
      (dropIdle cs = name ∨ (isIdle name = false ∧ ∃ base, dropIdle cs = name ++ '/' :: base)) := by
  have root := @eq_nil_of_dropIdle_eq cs
  have dot := dropIdle_ne_dot cs
  generalize dropIdle cs = trimmed at *
  -- The text is read from its end, so that what stands before the first slash is the last name.
  have whole : trimmed.takeWhile (· ≠ '/') ++ trimmed.dropWhile (· ≠ '/') = trimmed :=
    List.takeWhile_append_dropWhile
  have named : trimmed.takeWhile (· ≠ '/') ≠ [] := by
    cases trimmed with
    | nil => exact absurd rfl notEmpty
    | cons c rest =>
      have other : c ≠ '/' := by
        rintro rfl
        exact notRoot (by rw [root rfl])
      rw [List.takeWhile_cons_of_pos (by simpa using other)]
      exact List.cons_ne_nil _ _
  refine ⟨trimmed.takeWhile (· ≠ '/'), named, ?_, ?_⟩
  · intro mem
    have other := List.mem_takeWhile_imp mem
    simp at other
  · cases rest : trimmed.dropWhile (· ≠ '/') with
    | nil =>
      rw [rest, List.append_nil] at whole
      exact .inl whole.symm
    | cons c base =>
      obtain rfl : c = '/' := by
        have stops := List.head?_dropWhile_not (· ≠ '/') trimmed
        rw [rest] at stops
        simpa using stops
      rw [rest] at whole
      have noDot : trimmed.takeWhile (· ≠ '/') ≠ ['.'] := by
        intro same
        rw [same] at whole
        exact dot base whole.symm
      have busy : isIdle (trimmed.takeWhile (· ≠ '/')) = false := by
        simp only [isIdle, decide_eq_false named, decide_eq_false noDot, Bool.or_false]
      exact .inr ⟨busy, base, whole.symm⟩

theorem dropWhile_name {name : List Char} (single : '/' ∉ name) (rest : List Char) :
    (name ++ '/' :: rest).dropWhile (· ≠ '/') = '/' :: rest := by
  rw [List.dropWhile_append_of_pos, List.dropWhile_cons_of_neg (by simp)]
  intro c mem
  exact decide_eq_true fun slash => single (slash ▸ mem)

/-- Above a single name is the place itself. -/
theorem parentReversed?_of_name {cs name : List Char} (single : '/' ∉ name) (ne : name ≠ [])
    (ends : dropIdle cs = name) : parentReversed? cs = some [] := by
  have none : name.dropWhile (· ≠ '/') = [] := by
    rw [List.dropWhile_eq_nil_iff]
    intro c mem
    exact decide_eq_true fun slash => single (slash ▸ mem)
  rw [parentReversed?, ends]
  split
  · exact absurd rfl ne
  · exact absurd (List.mem_singleton_self '/') single
  · rw [none]

/-- Above a name after a slash is what stands before it. -/
theorem parentReversed?_of_append {cs name base : List Char} (single : '/' ∉ name) (ne : name ≠ [])
    (ends : dropIdle cs = name ++ '/' :: base) :
    parentReversed? cs = some (dropIdle ('/' :: base)) := by
  rw [parentReversed?, ends]
  split
  · next empty => exact absurd empty (List.append_ne_nil_of_right_ne_nil _ (List.cons_ne_nil _ _))
  · next root =>
    have length := congrArg List.length root
    have positive := List.length_pos_iff.2 ne
    simp only [List.length_append, List.length_cons, List.length_nil] at length
    omega
  · rw [dropWhile_name single]

theorem namesOf_of_parentReversed?_eq_none {cs : List Char} (top : parentReversed? cs = none) :
    namesOf cs.reverse = [] := by
  rw [← namesOf_dropIdle]
  by_cases empty : dropIdle cs = []
  · rw [empty]
    rfl
  by_cases root : dropIdle cs = ['/']
  · rw [root]
    rfl
  · obtain ⟨name, ne, single, alone | ⟨-, base, text⟩⟩ := dropIdle_cases empty root
    · rw [parentReversed?_of_name single ne alone] at top
      cases top
    · rw [parentReversed?_of_append single ne text] at top
      cases top

/-- A step upwards takes the last name away, and keeps the text before it. -/
theorem parentReversed?_spec {cs parent : List Char} (up : parentReversed? cs = some parent) :
    (∃ name, namesOf cs.reverse = namesOf parent.reverse ++ [name]) ∧ parent <:+ cs ∧
      (parent.getLast? = some '/' ↔ cs.getLast? = some '/') := by
  have ends := getLast?_dropIdle cs
  have inside := dropIdle_suffix cs
  have empty : dropIdle cs ≠ [] := by
    intro empty
    rw [parentReversed?, empty] at up
    cases up
  have root : dropIdle cs ≠ ['/'] := by
    intro root
    rw [parentReversed?, root] at up
    cases up
  rw [← namesOf_dropIdle, ← ends]
  obtain ⟨name, ne, single, alone | ⟨busy, base, text⟩⟩ := dropIdle_cases empty root
  · obtain rfl : [] = parent :=
      Option.some.inj ((parentReversed?_of_name single ne alone).symm.trans up)
    rw [alone]
    refine ⟨⟨name.reverse, namesOf_of_not_mem ?_ ?_⟩, List.nil_suffix, ?_⟩
    · exact fun mem => single (List.mem_reverse.1 mem)
    · exact fun none => ne (List.reverse_eq_nil_iff.1 none)
    · exact iff_of_false (fun none => by cases none) fun slash =>
        single (List.mem_of_getLast? slash)
  · obtain rfl : dropIdle ('/' :: base) = parent :=
      Option.some.inj ((parentReversed?_of_append single ne text).symm.trans up)
    rw [text] at inside ⊢
    refine ⟨⟨name.reverse, ?_⟩, ?_, ?_⟩
    · have busy' : isIdle name.reverse = false := by simpa [isIdle] using busy
      have single' : '/' ∉ name.reverse := fun mem => single (List.mem_reverse.1 mem)
      have before : namesOf (dropIdle ('/' :: base)).reverse = namesOf base.reverse := by
        rw [namesOf_dropIdle, List.reverse_cons]
        exact namesOf_append_idle _ List.not_mem_nil rfl
      rw [before, List.reverse_append, List.reverse_cons, List.append_assoc]
      exact namesOf_append_name _ single' busy'
    · exact (dropIdle_suffix _).trans ((List.suffix_append _ _).trans inside)
    · rw [getLast?_dropIdle, List.getLast?_append_of_ne_nil _ (List.cons_ne_nil _ _)]

/-! ### All steps upwards -/

theorem upward_of_none {cs : List Char} (top : parentReversed? cs = none) : upward cs = [cs] := by
  rw [upward]
  split
  · rfl
  · next up => rw [top] at up; cases up

theorem upward_of_some {cs parent : List Char} (up : parentReversed? cs = some parent) :
    upward cs = cs :: upward parent := by
  rw [upward]
  split
  · next top => rw [top] at up; cases up
  · next other =>
    rw [up] at other
    obtain rfl := Option.some.inj other
    rfl

/-- The names of a path and of all above it are the starts of the names, the longest first. -/
theorem namesOf_upward (cs : List Char) :
    (upward cs).map (fun reversed => namesOf reversed.reverse) =
      (namesOf cs.reverse).inits.reverse := by
  induction cs using upward.induct with
  | case1 cs ih =>
    cases up : parentReversed? cs with
    | none =>
      rw [upward_of_none up, List.map_singleton, namesOf_of_parentReversed?_eq_none up]
      rfl
    | some parent =>
      -- One step loses one name, as the starts of a list lose the longest.
      obtain ⟨⟨name, names⟩, -, -⟩ := parentReversed?_spec up
      rw [upward_of_some up, List.map_cons, ih parent up, names, List.inits_append]
      simp

/-- The texts of a path and of all above it are starts of the text, and all start at the root or
none does. -/
theorem suffix_of_mem_upward {cs above : List Char} (mem : above ∈ upward cs) :
    above <:+ cs ∧ (above.getLast? = some '/' ↔ cs.getLast? = some '/') := by
  induction cs using upward.induct with
  | case1 cs ih =>
    cases up : parentReversed? cs with
    | none =>
      rw [upward_of_none up] at mem
      obtain rfl := List.mem_singleton.1 mem
      exact ⟨List.suffix_refl _, Iff.rfl⟩
    | some parent =>
      rw [upward_of_some up] at mem
      rcases List.mem_cons.1 mem with rfl | higher
      · exact ⟨List.suffix_refl _, Iff.rfl⟩
      · obtain ⟨-, inside, root⟩ := parentReversed?_spec up
        obtain ⟨inside', root'⟩ := ih parent up higher
        exact ⟨inside'.trans inside, root'.trans root⟩

theorem head?_ancestors (path : String) : (ancestors path).head? = some path := by
  rw [ancestors, upward, List.map_cons, List.head?_cons, List.reverse_reverse, String.ofList_toList]

theorem names_ancestors (path : String) :
    (ancestors path).map names = (names path).inits.reverse := by
  have each : (ancestors path).map names =
      ((upward path.toList.reverse).map fun reversed => namesOf reversed.reverse).map
        (·.map String.ofList) := by
    simp only [ancestors, List.map_map, Function.comp_def, names, String.toList_ofList]
  rw [each, namesOf_upward, List.reverse_reverse, List.map_reverse, ← List.map_inits]
  rfl

theorem prefix_of_mem_ancestors {path above : String} (mem : above ∈ ancestors path) :
    above.toList <+: path.toList ∧ isAbsolute above = isAbsolute path := by
  obtain ⟨reversed, inside, rfl⟩ := List.mem_map.1 mem
  obtain ⟨text, root⟩ := suffix_of_mem_upward inside
  rw [String.toList_ofList, ← List.reverse_suffix, List.reverse_reverse]
  refine ⟨text, ?_⟩
  rw [List.getLast?_reverse] at root
  simp only [isAbsolute, String.toList_ofList, List.head?_reverse, root]

example : ancestors "a//b/." = ["a//b/.", "a", ""] := by cbv

/-! ### Paths without idle parts -/

/-- Whether a text is a name by itself: it has no slash and is not idle. -/
def IsName (name : String) : Prop := '/' ∉ name.toList ∧ isIdle name.toList = false

instance (name : String) : Decidable (IsName name) := inferInstanceAs (Decidable (_ ∧ _))

def slashed (ns : List String) : List Char := ns.flatMap fun name => '/' :: name.toList

theorem toList_ofNames {ns : List String} (ne : ns ≠ []) : (ofNames ns).toList = slashed ns := by
  have join (ns : List String) : (String.join (ns.map ("/" ++ ·))).toList = slashed ns := by
    induction ns with
    | nil => rfl
    | cons name ns ih =>
      rw [List.map_cons, String.join_cons, String.toList_append, ih, String.toList_append]
      rfl
  rw [ofNames, if_neg ne, join]

theorem slashed_append (ns : List String) (name : String) :
    slashed (ns ++ [name]) = slashed ns ++ '/' :: name.toList := by
  simp [slashed]

/-- Cut at its slashes, a path from the root has nothing before the first. -/
theorem parts_slashed {ns : List String} (plain : ∀ name ∈ ns, IsName name) :
    parts (slashed ns) = [] :: ns.map String.toList := by
  induction ns using List.reverseRecOn with
  | nil => rfl
  | append_singleton ns name ih =>
    have last : IsName name := plain name (by simp)
    rw [slashed_append, parts_append, ih fun n mem => plain n (List.mem_append_left _ mem),
      parts_of_not_mem last.1]
    simp

theorem IsName.toList_ne_nil {name : String} (plain : IsName name) : name.toList ≠ [] := by
  intro empty
  have busy := plain.2
  rw [empty] at busy
  cases busy

/-- The path of a name below names from the root. -/
theorem join_ofNames {ns : List String} {name : String} (plain : ∀ n ∈ ns ++ [name], IsName n) :
    join (ofNames ns) name = ofNames (ns ++ [name]) := by
  have last : IsName name := plain name (by simp)
  have relative : ¬isAbsolute name = true := by
    intro slash
    exact last.1 (List.mem_of_head? (of_decide_eq_true slash))
  apply String.toList_inj.1
  rw [toList_ofNames (by simp), slashed_append]
  cases ns using List.reverseRecOn with
  | nil =>
    have root : ofNames [] ≠ "" := by decide
    have slash : (ofNames []).toList.getLast? = some '/' := by decide
    rw [join, if_neg (not_or.2 ⟨relative, root⟩), if_pos slash, String.toList_append]
    rfl
  | append_singleton ns other =>
    have busy : IsName other := plain other (by simp)
    have text : (ofNames (ns ++ [other])).toList = slashed ns ++ '/' :: other.toList := by
      rw [toList_ofNames (by simp), slashed_append]
    have nonempty : ofNames (ns ++ [other]) ≠ "" := by
      intro empty
      rw [empty] at text
      exact List.append_ne_nil_of_right_ne_nil _ (List.cons_ne_nil _ _) text.symm
    have noSlash : (ofNames (ns ++ [other])).toList.getLast? ≠ some '/' := by
      intro slash
      rw [text, List.getLast?_append_of_ne_nil _ (List.cons_ne_nil _ _),
        List.getLast?_cons_of_ne_nil busy.toList_ne_nil] at slash
      exact busy.1 (List.mem_of_getLast? slash)
    rw [join, if_neg (not_or.2 ⟨relative, nonempty⟩), if_neg noSlash, String.toList_append,
      String.toList_append,
      text, slashed_append]
    simp

theorem dropIdle_of_busy {cs : List Char} (noSlash : cs.head? ≠ some '/')
    (noDot : ∀ rest, cs ≠ '.' :: '/' :: rest) :
    dropIdle cs = cs := by
  fun_cases dropIdle cs with
  | case1 => exact absurd rfl noSlash
  | case2 rest _ => exact absurd rfl noSlash
  | case3 rest => exact absurd rfl (noDot rest)
  | case4 => rfl

/-- Nothing is dropped from a name after a slash. -/
theorem dropIdle_name {name : String} (plain : IsName name) (rest : List Char) :
    dropIdle (name.toList.reverse ++ '/' :: rest) = name.toList.reverse ++ '/' :: rest := by
  have single : '/' ∉ name.toList.reverse := fun mem => plain.1 (List.mem_reverse.1 mem)
  have ne : name.toList.reverse ≠ [] :=
    fun empty => plain.toList_ne_nil (List.reverse_eq_nil_iff.1 empty)
  have noDot : name.toList.reverse ≠ ['.'] := by
    intro dot
    have busy := plain.2
    rw [List.reverse_eq_iff.1 dot] at busy
    cases busy
  obtain ⟨c, cs, eq⟩ := List.exists_cons_of_ne_nil ne
  rw [eq] at single noDot ⊢
  apply dropIdle_of_busy
  · intro slash
    exact single (Option.some.inj slash ▸ List.mem_cons_self)
  · intro others same
    obtain ⟨dot, tail⟩ := List.cons.inj same
    cases cs with
    | nil => exact noDot (by rw [dot])
    | cons d cs =>
      have slash : d = '/' := (List.cons.inj tail).1
      exact single (List.mem_cons_of_mem _ (slash ▸ List.mem_cons_self))

theorem parentReversed?_ofNames {ns : List String} {name : String}
    (plain : ∀ n ∈ ns ++ [name], IsName n) :
    parentReversed? (ofNames (ns ++ [name])).toList.reverse = some (ofNames ns).toList.reverse := by
  have last : IsName name := plain name (by simp)
  have text : (ofNames (ns ++ [name])).toList.reverse =
      name.toList.reverse ++ '/' :: (slashed ns).reverse := by
    rw [toList_ofNames (by simp)]
    simp [slashed]
  have single : '/' ∉ name.toList.reverse := fun mem => last.1 (List.mem_reverse.1 mem)
  have ne : name.toList.reverse ≠ [] :=
    fun empty => last.toList_ne_nil (List.reverse_eq_nil_iff.1 empty)
  rw [text, parentReversed?_of_append single ne (dropIdle_name last _)]
  cases ns using List.reverseRecOn with
  | nil => rfl
  | append_singleton ns other =>
    have busy : IsName other := plain other (by simp)
    have before : (slashed (ns ++ [other])).reverse =
        other.toList.reverse ++ '/' :: (slashed ns).reverse := by
      simp [slashed]
    rw [toList_ofNames (by simp), before, dropIdle, dropIdle_name busy]
    intro empty
    simp at empty

/-- Above a path without idle parts are those of fewer names. -/
theorem ancestors_ofNames {ns : List String} (plain : ∀ name ∈ ns, IsName name) :
    ancestors (ofNames ns) = ns.inits.reverse.map ofNames := by
  induction ns using List.reverseRecOn with
  | nil =>
    have top : parentReversed? (ofNames []).toList.reverse = none := rfl
    rw [ancestors, upward_of_none top]
    rfl
  | append_singleton ns name ih =>
    have up := parentReversed?_ofNames plain
    have above := ih fun n mem => plain n (List.mem_append_left _ mem)
    rw [ancestors] at above
    rw [ancestors, upward_of_some up, List.map_cons, above, List.inits_append]
    simp

end CommitLint.Path
