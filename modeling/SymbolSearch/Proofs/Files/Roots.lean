import Mathlib.Data.List.Basic
import SymbolSearch.Files.Tree

/-!
# Roots

The root of a workspace is a path without links, dots and upward steps. There is only one way to
write such a path.

* `Path.IsRoot` — a path is written as a root is, and `Tree.isRoot_canonical` shows that files lead
  to no other paths.
* `Path.IsRoot.eq_of_same` — roots with the same parts are the same.
-/

namespace SymbolSearch

namespace Path

/-- A name of an entry among the files. -/
structure IsName (name : String) : Prop where
  nonempty : name ≠ ""
  no_dot : name ≠ "."
  no_slash : '/' ∉ name.toList

/-- A path that leads from the root of all files to an entry, name by name. -/
def IsRoot (path : Path) : Prop := ∃ names, (∀ name ∈ names, IsName name) ∧ path = ofParts names

theorem cut_eq_splitOn (cs : List Char) : cut cs = cs.splitOn '/' := by
  have hhead (pieces : List (List Char)) : pieces.modifyHead (fun piece => piece) = pieces := by
    cases pieces <;> rfl
  have hgo (cs : List Char) (done : List (List Char)) (piece : List Char) :
      cut.go done piece cs = done.reverse ++ (cs.splitOn '/').modifyHead (piece.reverse ++ ·) := by
    induction cs generalizing done piece with
    | nil => simp [cut.go]
    | cons c rest ih =>
      rw [List.splitOn, List.splitOnP_cons_eq_if_modifyHead]
      by_cases hc : c = '/'
      · subst hc
        rw [cut.go, ih, if_pos (beq_self_eq_true _)]
        simp [List.splitOn, hhead]
      · have hslash : (c == '/') = false := beq_false_of_ne hc
        have hstep : cut.go done piece (c :: rest) = cut.go done (c :: piece) rest := by
          rw [cut.go]
          exact fun heq => hc heq
        rw [hstep, ih, if_neg (by simp [hslash]), ← List.splitOn]
        cases rest.splitOn '/' with
        | nil => rfl
        | cons first others => simp
  rw [cut, hgo]
  simp [hhead]

/-- The pieces between slashes have no slashes. -/
theorem slash_notMem_of_mem_cut {cs piece : List Char} (h : piece ∈ cut cs) : '/' ∉ piece := by
  have hgo (cs : List Char) (done : List (List Char)) (current : List Char)
      (hdone : ∀ piece ∈ done, '/' ∉ piece) (hcurrent : '/' ∉ current) :
      ∀ piece ∈ cut.go done current cs, '/' ∉ piece := by
    induction cs generalizing done current with
    | nil =>
      intro piece hpiece
      rw [cut.go, List.mem_reverse] at hpiece
      rcases List.mem_cons.mp hpiece with rfl | hpiece
      · simpa using hcurrent
      · exact hdone piece hpiece
    | cons c rest ih =>
      by_cases hc : c = '/'
      · subst hc
        rw [cut.go]
        refine ih _ [] (fun piece hpiece => ?_) List.not_mem_nil
        rcases List.mem_cons.mp hpiece with rfl | hpiece
        · simpa using hcurrent
        · exact hdone piece hpiece
      · have hstep : cut.go done current (c :: rest) = cut.go done (c :: current) rest := by
          rw [cut.go]
          exact fun heq => hc heq
        rw [hstep]
        refine ih done (c :: current) hdone fun hmem => ?_
        rcases List.mem_cons.mp hmem with heq | hmem
        · exact hc heq.symm
        · exact hcurrent hmem
  exact hgo cs [] [] (by rintro _ ⟨⟩) List.not_mem_nil piece h

/-- A path that was put together from names has these names as its parts. -/
theorem parts_ofParts {names : List String} (h : ∀ name ∈ names, IsName name) :
    parts (ofParts names) = names := by
  have hlist : (ofParts names).toList = '/' :: ['/'].intercalate (names.map String.toList) := by
    rw [ofParts, String.toList_append, String.toList_intercalate]
    rfl
  have hkept : names.filter (fun piece => piece ≠ "" && piece ≠ ".") = names := by
    rw [List.filter_eq_self]
    intro name hname
    simp [(h name hname).nonempty, (h name hname).no_dot]
  have hcut : (cut (ofParts names).toList).map String.ofList = "" :: names ∨
      names = [] ∧ (cut (ofParts names).toList).map String.ofList = ["", ""] := by
    rw [hlist, cut_eq_splitOn, List.splitOn, List.splitOnP_cons_eq_if_modifyHead,
      if_pos (beq_self_eq_true _), ← List.splitOn]
    cases names with
    | nil => exact .inr ⟨rfl, by simp [List.intercalate]⟩
    | cons first others =>
      refine .inl ?_
      rw [List.splitOn_intercalate _ ?_ (by simp)]
      · simp [Function.comp_def]
      · intro piece hpiece
        obtain ⟨name, hname, rfl⟩ := List.mem_map.mp hpiece
        exact (h name hname).no_slash
  rw [parts]
  rcases hcut with hcut | ⟨rfl, hcut⟩
  · simp only [hcut, List.head?_cons, List.filter_cons]
    rw [hkept]
    simp
  · simp only [hcut]
    rfl

theorem IsRoot.eq_of_same {path other : Path} (h : path.IsRoot) (h' : other.IsRoot)
    (hsame : path.same other = true) : path = other := by
  obtain ⟨names, hnames, rfl⟩ := h
  obtain ⟨others, hothers, rfl⟩ := h'
  simp only [same, Bool.and_eq_true, beq_iff_eq] at hsame
  rw [parts_ofParts hnames, parts_ofParts hothers] at hsame
  rw [hsame.2]

end Path

namespace Tree

open Path

/-- Steps of a path are names, dots or two dots. -/
theorem step_cases {path : Path} {step : String} (h : step ∈ stepsOf path) :
    '/' ∉ step.toList ∧ step ≠ "" := by
  have hpiece (hmem : step ∈ ((cut path.toList).map String.ofList).filter (· ≠ "")) :
      '/' ∉ step.toList ∧ step ≠ "" := by
    obtain ⟨hmem, hne⟩ := List.mem_filter.mp hmem
    obtain ⟨piece, hcut, rfl⟩ := List.mem_map.mp hmem
    refine ⟨?_, by simpa using hne⟩
    rw [String.toList_ofList]
    exact slash_notMem_of_mem_cut hcut
  rw [stepsOf] at h
  split at h
  · rcases List.mem_append.mp h with h | h
    · exact hpiece h
    · rw [List.mem_singleton.mp h]
      decide
  · exact hpiece h

/-- A walk along names leads to names. -/
theorem isName_of_walk {tree : Tree} {followLast : Bool}
    {follow : List String → List String → Except FileError (List String)}
    {done steps names : List String}
    (hfollow : ∀ done steps names, (∀ name ∈ done, IsName name) →
      (∀ step ∈ steps, '/' ∉ step.toList ∧ step ≠ "") → follow done steps = .ok names →
        ∀ name ∈ names, IsName name)
    (hdone : ∀ name ∈ done, IsName name) (hsteps : ∀ step ∈ steps, '/' ∉ step.toList ∧ step ≠ "")
    (h : tree.walk followLast follow done steps = .ok names) : ∀ name ∈ names, IsName name := by
  induction steps generalizing done with
  | nil =>
    cases h
    exact hdone
  | cons step rest ih =>
    have hrest : ∀ step ∈ rest, '/' ∉ step.toList ∧ step ≠ "" :=
      fun other hmem => hsteps other (List.mem_cons_of_mem _ hmem)
    rw [walk] at h
    split at h
    next => exact ih hdone hrest h
    next hdot =>
      have hlonger : ∀ name ∈ done ++ [step], IsName name := by
        intro name hmem
        rcases List.mem_append.mp hmem with hmem | hmem
        · exact hdone name hmem
        · rw [List.mem_singleton.mp hmem]
          obtain ⟨hslash, hne⟩ := hsteps step List.mem_cons_self
          exact ⟨hne, hdot, hslash⟩
      split at h
      · exact ih (fun name hmem => hdone name (List.dropLast_subset done hmem)) hrest h
      · split at h
        · cases h
        · split at h
          · cases h
          · exact ih hlonger hrest h
          · split at h
            · cases h
              exact hlonger
            · cases h
          next target _ =>
            split at h
            · cases h
              exact hlonger
            · split at h
              · cases h
              · refine hfollow _ _ names ?_ (fun other hmem => ?_) h
                · split
                  · rintro _ ⟨⟩
                  · exact hdone
                · rcases List.mem_append.mp hmem with hmem | hmem
                  · exact step_cases hmem
                  · exact hrest other hmem

/-- So does a walk through links. -/
theorem isName_of_follow {tree : Tree} {followLast : Bool} (links : Nat)
    {done steps names : List String} (hdone : ∀ name ∈ done, IsName name)
    (hsteps : ∀ step ∈ steps, '/' ∉ step.toList ∧ step ≠ "")
    (h : tree.follow followLast links done steps = .ok names) : ∀ name ∈ names, IsName name := by
  induction links generalizing done steps names with
  | zero => exact isName_of_walk (by rintro _ _ _ _ _ ⟨⟩) hdone hsteps h
  | succ links ih =>
    exact isName_of_walk (fun _ _ _ hdone hsteps h => ih hdone hsteps h) hdone hsteps h

/-- Files lead to roots only. -/
theorem isRoot_canonical {tree : Tree} {path root : Path} (h : tree.canonical path = .ok root) :
    root.IsRoot := by
  cases hresolve : tree.resolve path with
  | error error =>
    rw [canonical, hresolve] at h
    cases h
  | ok names =>
    rw [canonical, hresolve] at h
    cases h
    refine ⟨names, ?_, rfl⟩
    rw [resolve, resolveWith] at hresolve
    split at hresolve
    · cases hresolve
    · split at hresolve
      · cases hresolve
      · split at hresolve
        · exact isName_of_follow maxLinks (by rintro _ ⟨⟩) (fun _ => step_cases) hresolve
        · cases hresolve

end Tree
end SymbolSearch
