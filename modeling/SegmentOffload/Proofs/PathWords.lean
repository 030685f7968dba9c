import Mathlib.Data.List.Basic
import SegmentOffload.Path

/-!
What the directories on the way to a path are made of.

The components of a parent are the front of those of its path.  So a directory that has to be made
for a path is named by a front of its components, and some component behind that front is a name of
its own or leads up.
-/

namespace SegmentOffload.Path

/-! ### Pieces between slashes -/

def words (characters : List Char) : List (List Char) :=
  (pieces characters).filter fun piece => piece ≠ []

theorem components_eq_map (path : String) :
    components path = (words path.toList).map String.ofList := rfl

theorem pieces_ne_nil (characters : List Char) : pieces characters ≠ [] := by
  intro none
  fun_induction pieces characters with
  | case1 => cases none
  | case2 => cases none
  | case3 => cases none
  | case4 => cases none

theorem pieces_append_slash (front back : List Char) :
    pieces (front ++ '/' :: back) = pieces front ++ pieces back := by
  induction front with
  | nil => rfl
  | cons first rest ih =>
    rw [List.cons_append]
    by_cases slash : first = '/'
    · rw [slash, pieces, pieces, ih]
      rfl
    · rw [pieces.eq_3 first _ slash, pieces.eq_3 first _ slash, ih]
      cases parts : pieces rest with
      | nil => exact absurd parts (pieces_ne_nil rest)
      | cons piece more => rfl

theorem pieces_of_free {characters : List Char} (free : '/' ∉ characters) :
    pieces characters = [characters] := by
  induction characters with
  | nil => rfl
  | cons first rest ih =>
    have other : first ≠ '/' := by
      rintro rfl
      exact free List.mem_cons_self
    rw [pieces.eq_3 first rest other, ih fun member => free (List.mem_cons_of_mem _ member)]

theorem words_append_slash (front back : List Char) :
    words (front ++ '/' :: back) = words front ++ words back := by
  rw [words, pieces_append_slash, List.filter_append]
  rfl

theorem words_of_free {characters : List Char} (free : '/' ∉ characters)
    (nonempty : characters ≠ []) : words characters = [characters] := by
  rw [words, pieces_of_free free,
    List.filter_cons_of_pos (by rw [decide_eq_true_iff]; exact nonempty)]
  rfl

theorem sublist_of_mem_pieces {characters piece : List Char}
    (listed : piece ∈ pieces characters) : piece.Sublist characters := by
  induction characters generalizing piece with
  | nil => rw [List.mem_singleton.mp listed]
  | cons first rest ih =>
    by_cases slash : first = '/'
    · rw [slash, pieces] at listed
      rcases List.mem_cons.mp listed with rfl | later
      · exact List.nil_sublist _
      · exact (ih later).trans (List.sublist_cons_self _ _)
    · rw [pieces.eq_3 first rest slash] at listed
      cases parts : pieces rest with
      | nil => exact absurd parts (pieces_ne_nil rest)
      | cons start more =>
        rw [parts] at listed ih
        rcases List.mem_cons.mp listed with rfl | later
        · exact (ih List.mem_cons_self).cons_cons first
        · exact (ih (List.mem_cons_of_mem _ later)).trans (List.sublist_cons_self _ _)

/-! ### Parents -/

/-- What is trimmed from the end of a path names nothing. -/
theorem words_trimEnd (backwards : List Char) :
    ∃ count, words backwards.reverse =
      words (trimEnd backwards).reverse ++ List.replicate count ['.'] := by
  fun_induction trimEnd backwards with
  | case1 => exact ⟨0, rfl⟩
  | case2 rest _ ih =>
    have none : words [] = [] := rfl
    rw [List.reverse_cons, words_append_slash, none, List.append_nil]
    exact ih
  | case3 rest ih =>
    obtain ⟨count, same⟩ := ih
    have none : words [] = [] := rfl
    have dot : words ['.'] = [['.']] := rfl
    rw [List.reverse_cons, words_append_slash, none, List.append_nil] at same
    rw [List.reverse_cons, List.reverse_cons, List.append_assoc, List.cons_append,
      List.nil_append, words_append_slash, dot, same]
    exact ⟨count + 1, by rw [List.append_assoc, ← List.replicate_succ']⟩
  | case4 characters => exact ⟨0, (List.append_nil _).symm⟩

theorem trimEnd_trimEnd (backwards : List Char) :
    trimEnd (trimEnd backwards) = trimEnd backwards := by
  fun_induction trimEnd backwards with
  | case1 => simp only [trimEnd]
  | case2 rest more ih => exact ih
  | case3 rest ih => exact ih
  | case4 characters noRoot noSlash noDot => exact trimEnd.eq_4 characters noRoot noSlash noDot

theorem trimEnd_isSuffix (backwards : List Char) : trimEnd backwards <:+ backwards := by
  fun_induction trimEnd backwards with
  | case1 => exact List.suffix_rfl
  | case2 rest more ih => exact ih.trans (List.suffix_cons _ _)
  | case3 rest ih => exact ih.trans (List.suffix_cons _ _)
  | case4 => exact List.suffix_rfl

theorem getLast?_trimEnd (backwards : List Char) :
    (trimEnd backwards).getLast? = backwards.getLast? := by
  fun_induction trimEnd backwards with
  | case1 => rfl
  | case2 rest more ih =>
    cases rest with
    | nil => exact absurd rfl more
    | cons first others =>
      rw [ih, List.getLast?_cons_cons]
  | case3 rest ih => rw [ih, List.getLast?_cons_cons]
  | case4 => rfl

/-- Trimmed characters are none, the root, or they begin with the end of a name. -/
theorem trimEnd_cases (backwards : List Char) :
    trimEnd backwards = [] ∨ trimEnd backwards = ['/'] ∨
      ∃ first rest, trimEnd backwards = first :: rest ∧ first ≠ '/' ∧
        (first = '.' → ∀ more, rest ≠ '/' :: more) := by
  fun_induction trimEnd backwards with
  | case1 => exact .inr (.inl rfl)
  | case2 rest more ih => exact ih
  | case3 rest ih => exact ih
  | case4 characters noRoot noSlash noDot =>
    cases characters with
    | nil => exact .inl rfl
    | cons first rest =>
      refine .inr (.inr ⟨first, rest, rfl, ?_, ?_⟩)
      · rintro rfl
        exact noSlash rest rfl
      · rintro rfl more rfl
        exact noDot more rfl

/-- What is left from the first slash on. -/
theorem dropWhile_cases (characters : List Char) :
    (characters.dropWhile (· != '/') = [] ∧ '/' ∉ characters) ∨
      ∃ name more, characters = name ++ '/' :: more ∧ '/' ∉ name ∧
        characters.dropWhile (· != '/') = '/' :: more := by
  induction characters with
  | nil => exact .inl ⟨rfl, List.not_mem_nil⟩
  | cons first rest ih =>
    by_cases slash : first = '/'
    · rw [slash]
      exact .inr ⟨[], rest, rfl, List.not_mem_nil, rfl⟩
    · have passed : (first != '/') = true := by
        rw [bne_iff_ne]
        exact slash
      have skipped : (first :: rest).dropWhile (· != '/') = rest.dropWhile (· != '/') := by
        rw [List.dropWhile_cons, if_pos passed]
      have grown {name : List Char} (free : '/' ∉ name) : '/' ∉ first :: name := by
        intro member
        rcases List.mem_cons.mp member with same | listed
        · exact slash same.symm
        · exact free listed
      rw [skipped]
      rcases ih with ⟨none, free⟩ | ⟨name, more, rfl, free, left⟩
      · exact .inl ⟨none, grown free⟩
      · exact .inr ⟨first :: name, more, rfl, grown free, left⟩

theorem isAbsolute_eq (path : String) :
    isAbsolute path = (path.toList.reverse.getLast? == some '/') := by
  rw [isAbsolute, List.getLast?_reverse]

theorem isAbsolute_ofList_reverse (backwards : List Char) :
    isAbsolute (String.ofList backwards.reverse) = (backwards.getLast? == some '/') := by
  rw [isAbsolute, String.toList_ofList, List.head?_reverse]

/-- Behind the last slash stands the last component. -/
theorem words_last {name : List Char} (more : List Char) (free : '/' ∉ name)
    (nonempty : name ≠ []) :
    ∃ count, words (name ++ '/' :: more).reverse =
      words (trimEnd ('/' :: more)).reverse ++
        (List.replicate count ['.'] ++ [name.reverse]) := by
  obtain ⟨count, front⟩ := words_trimEnd ('/' :: more)
  have none : words [] = [] := rfl
  have last : words name.reverse = [name.reverse] := by
    apply words_of_free
    · rw [List.mem_reverse]
      exact free
    · rw [ne_eq, List.reverse_eq_nil_iff]
      exact nonempty
  rw [List.reverse_cons, words_append_slash, none, List.append_nil] at front
  refine ⟨count, ?_⟩
  rw [List.reverse_append, List.reverse_cons, List.append_assoc, List.singleton_append,
    words_append_slash, last, front, List.append_assoc]

def dots (count : Nat) : List String :=
  List.replicate count "."

theorem map_ofList_replicate (count : Nat) :
    (List.replicate count ['.']).map String.ofList = dots count := by
  rw [List.map_replicate]
  rfl

/-- Nothing at the end of a path could be left out. -/
def IsTrimmed (path : String) : Prop :=
  trimEnd path.toList.reverse = path.toList.reverse

/-- The components of a parent are those of its path without the last name, save that a component
that is one dot may stand before or behind the name; the parent of a bare name has none. -/
theorem components_parent {path parent : String} (found : parent? path = some parent) :
    isAbsolute parent = isAbsolute path ∧ IsTrimmed parent ∧
      ∃ before name behind,
        components path = components parent ++ (dots before ++ name :: dots behind) ∧
          (parent ≠ "" → name ≠ ".") ∧ (IsTrimmed path → behind = 0) := by
  obtain ⟨behind, whole⟩ := words_trimEnd path.toList.reverse
  have ending := getLast?_trimEnd path.toList.reverse
  have shape := trimEnd_cases path.toList.reverse
  have clean : IsTrimmed path → behind = 0 := by
    intro clean
    rw [clean] at whole
    have nothing := List.append_right_eq_self.mp whole.symm
    rw [List.replicate_eq_nil_iff] at nothing
    exact nothing
  rw [List.reverse_reverse] at whole
  unfold parent? at found
  rw [isAbsolute_eq path, ← ending, components_eq_map, whole, List.map_append,
    map_ofList_replicate]
  generalize trimEnd path.toList.reverse = trimmed at found shape ⊢
  split at found
  · cases found
  · cases found
  · rename_i noName noRoot
    cases found
    have isTrimmed : IsTrimmed
        (String.ofList (trimEnd (trimmed.dropWhile (· != '/'))).reverse) := by
      rw [IsTrimmed, String.toList_ofList, List.reverse_reverse, trimEnd_trimEnd]
    rw [isAbsolute_ofList_reverse, getLast?_trimEnd]
    rcases dropWhile_cases trimmed with ⟨none, free⟩ | ⟨name, more, rfl, free, left⟩
    · have empty : trimEnd [] = [] := by
        simp only [trimEnd]
      rw [none, empty] at isTrimmed ⊢
      refine ⟨?_, isTrimmed, 0, String.ofList trimmed.reverse, behind, ?_,
        fun named => absurd rfl named, clean⟩
      · symm
        change _ = false
        rw [beq_eq_false_iff_ne]
        intro slash
        exact free (List.mem_of_getLast? slash)
      · have bare : words trimmed.reverse = [trimmed.reverse] := by
          apply words_of_free
          · rw [List.mem_reverse]
            exact free
          · rw [ne_eq, List.reverse_eq_nil_iff]
            exact noName
        rw [bare]
        rfl
    · rw [left] at isTrimmed ⊢
      -- the last component is a name, for a dot would have been trimmed
      have named : name ≠ [] ∧ name ≠ ['.'] := by
        rcases shape with none | root | ⟨first, rest, same, other, noDot⟩
        · exact absurd none noName
        · exact absurd root noRoot
        · constructor
          · rintro rfl
            cases same
            exact other rfl
          · rintro rfl
            cases same
            exact noDot rfl more rfl
      obtain ⟨before, parts⟩ := words_last more free named.1
      refine ⟨?_, isTrimmed, before, String.ofList name.reverse, behind, ?_, ?_, clean⟩
      · rw [List.getLast?_append_cons]
      · rw [parts, components_eq_map, String.toList_ofList, List.map_append, List.map_append,
          map_ofList_replicate, List.append_assoc, List.append_assoc]
        rfl
      · intro _ dot
        have characters := congrArg String.toList dot
        rw [String.toList_ofList] at characters
        apply named.2
        rw [← List.reverse_reverse name, characters]
        rfl

/-- A path without a parent names nothing. -/
theorem components_of_orphan {path : String} (orphan : parent? path = none) :
    ∃ count, components path = dots count := by
  obtain ⟨count, whole⟩ := words_trimEnd path.toList.reverse
  rw [List.reverse_reverse] at whole
  refine ⟨count, ?_⟩
  rw [components_eq_map, whole, List.map_append, map_ofList_replicate]
  unfold parent? at orphan
  split at orphan
  · rename_i none
    rw [none]
    rfl
  · rename_i root
    rw [root]
    rfl
  · cases orphan

/-- Of the paths without anything to leave out, only two have no parent. -/
theorem eq_of_orphan {path : String} (trimmed : IsTrimmed path) (orphan : parent? path = none) :
    path = "" ∨ path = "/" := by
  unfold parent? at orphan
  rw [trimmed] at orphan
  split at orphan
  · rename_i none
    left
    rw [← String.toList_inj]
    exact List.reverse_eq_nil_iff.mp none
  · rename_i root
    right
    rw [← String.toList_inj, ← List.reverse_inj]
    exact root
  · cases orphan

theorem named_of_parent {path parent : String} (found : parent? path = some parent) :
    path.isEmpty = false := by
  rw [← Bool.not_eq_true, String.isEmpty_iff]
  rintro rfl
  have orphan : parent? "" = none := by decide +kernel
  rw [orphan] at found
  cases found

/-- A parent is the front of its path, as a text. -/
theorem toList_parent {path parent : String} (found : parent? path = some parent) :
    parent.length < path.length ∧ ∀ character ∈ parent.toList, character ∈ path.toList := by
  have shape := trimEnd_cases path.toList.reverse
  have front := trimEnd_isSuffix path.toList.reverse
  unfold parent? at found
  generalize trimEnd path.toList.reverse = trimmed at found shape front
  split at found
  · cases found
  · cases found
  · rename_i noName noRoot
    cases found
    rcases shape with none | root | ⟨first, rest, rfl, other, _⟩
    · exact absurd none noName
    · exact absurd root noRoot
    · have passed : (first != '/') = true := by
        rw [bne_iff_ne]
        exact other
      rw [List.dropWhile_cons, if_pos passed]
      have kept := (trimEnd_isSuffix (rest.dropWhile (· != '/'))).trans
        (List.dropWhile_suffix (· != '/'))
      have short := kept.length_le
      have long := front.length_le
      rw [List.length_cons, List.length_reverse, String.length_toList] at long
      constructor
      · rw [String.length_ofList, List.length_reverse]
        omega
      · intro character listed
        rw [String.toList_ofList, List.mem_reverse] at listed
        rw [← List.mem_reverse]
        exact front.subset (List.mem_cons_of_mem first (kept.subset listed))

/-! ### The way to a path -/

/-- A path to something that another path passes, named by a front of its components.  A component
that does more than stay is left. -/
def LeadsTo (front path : String) : Prop :=
  isAbsolute front = isAbsolute path ∧
    ∃ rest, components path = components front ++ rest ∧ ∃ word ∈ rest, word ≠ "."

theorem LeadsTo.parent {front path parent : String} (leads : LeadsTo front path)
    (found : parent? front = some parent) : LeadsTo parent path := by
  obtain ⟨start, rest, whole, word, listed, moves⟩ := leads
  obtain ⟨sameStart, _, before, name, behind, front, _⟩ := components_parent found
  refine ⟨sameStart.trans start, dots before ++ name :: dots behind ++ rest, ?_, word,
    List.mem_append_right _ listed, moves⟩
  rw [whole, front, List.append_assoc]

theorem LeadsTo.of_mem_lineage {steps : Nat} {front path ancestor : String}
    (leads : LeadsTo front path) (listed : ancestor ∈ lineage steps front) :
    LeadsTo ancestor path := by
  induction steps generalizing front with
  | zero => cases listed
  | succ steps ih =>
    unfold lineage at listed
    split at listed
    · rename_i parent found
      rcases List.mem_cons.mp listed with rfl | higher
      · exact leads
      · exact ih (leads.parent found) higher
    · cases listed

theorem leadsTo_directory (path : String) :
    LeadsTo (directory path) path ∨ directory path = "." := by
  unfold directory
  split
  · rename_i parent found
    split
    · exact .inr rfl
    · rename_i named
      obtain ⟨start, _, before, name, behind, whole, moves, _⟩ := components_parent found
      refine .inl ⟨start, _, whole, name, ?_, moves ?_⟩
      · rw [List.mem_append, List.mem_cons]
        exact .inr (.inl rfl)
      · rintro rfl
        exact named rfl
  · exact .inr rfl

theorem isTrimmed_directory (path : String) :
    IsTrimmed (directory path) ∧ (directory path).isEmpty = false := by
  have current : IsTrimmed "." := by
    have characters : String.toList "." = ['.'] := by decide +kernel
    rw [IsTrimmed, characters]
    simp [trimEnd]
  unfold directory
  split
  · rename_i parent found
    split
    · exact ⟨current, by decide⟩
    · rename_i named
      rw [Bool.not_eq_true] at named
      exact ⟨(components_parent found).2.1, named⟩
  · exact ⟨current, by decide⟩

/-- The directories that are made for a path lead to it, or the current one is enough. -/
theorem leadsTo_of_mem_ancestors {path ancestor : String}
    (listed : ancestor ∈ ancestors (directory path)) : LeadsTo ancestor path ∨ ancestor = "." := by
  rcases leadsTo_directory path with leads | current
  · exact .inl (leads.of_mem_lineage listed)
  · have itself : ancestors "." = ["."] := by decide +kernel
    rw [current, itself, List.mem_singleton] at listed
    exact .inr listed

end SegmentOffload.Path
