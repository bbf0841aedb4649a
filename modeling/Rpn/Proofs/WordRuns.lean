import Rpn.Pattern.Search

/-!
Runs of characters between gaps. A text is read from left to right, and a run is taken as far as it
goes. Main statement: this finds all runs that there are, in order, and what stands together is in
one of them.
-/

namespace Rpn.Text

open Pattern (Span)

/-- Whether a part of a text is a run: it has no gap in it, and cannot be made longer. -/
structure IsRun (gap : Char → Bool) (before run after : List Char) : Prop where
  ne_nil : run ≠ []
  solid : ∀ c ∈ run, gap c = false
  left : ∀ c ∈ before.getLast?, gap c = true
  right : ∀ c ∈ after.head?, gap c = true

/-- The runs of a text that has `start` characters before it. -/
def runs (gap : Char → Bool) (start : Nat) : List Char → List Span
  | [] => []
  | c :: cs =>
    if gap c then runs gap (start + 1) cs
    else
      let run := c :: cs.takeWhile (!gap ·)
      ⟨start, run⟩ :: runs gap (start + run.length) (cs.dropWhile (!gap ·))
termination_by cs => cs.length
decreasing_by
  · simp
  · have := (List.dropWhile_sublist (!gap ·) (l := cs)).length_le
    simp only [List.length_cons]
    omega

variable {gap : Char → Bool}

theorem runs_cons_gap {c : Char} (hc : gap c = true) (start : Nat) (cs : List Char) :
    runs gap start (c :: cs) = runs gap (start + 1) cs := by
  rw [runs, if_pos hc]

theorem IsRun.takeWhile_eq {before run after : List Char} (h : IsRun gap before run after) :
    (run ++ after).takeWhile (!gap ·) = run := by
  rw [List.takeWhile_append_of_pos (by simpa using h.solid)]
  cases after with
  | nil => simp
  | cons c cs => simp [h.right c rfl]

theorem IsRun.dropWhile_eq {before run after : List Char} (h : IsRun gap before run after) :
    (run ++ after).dropWhile (!gap ·) = after := by
  rw [List.dropWhile_append_of_pos (by simpa using h.solid)]
  cases after with
  | nil => rfl
  | cons c cs => simp [h.right c rfl]

theorem IsRun.congr {gap' : Char → Bool} {before run after : List Char}
    (h : IsRun gap before run after) (hgap : ∀ c ∈ before ++ run ++ after, gap c = gap' c) :
    IsRun gap' before run after := by
  simp only [List.mem_append] at hgap
  refine ⟨h.ne_nil, fun c hc => ?_, fun c hc => ?_, fun c hc => ?_⟩
  · rw [← hgap c (.inl (.inr hc))]
    exact h.solid c hc
  · rw [← hgap c (.inl (.inl (List.mem_of_getLast? hc)))]
    exact h.left c hc
  · rw [← hgap c (.inr (List.mem_of_mem_head? hc))]
    exact h.right c hc

theorem runs_append {run after : List Char} (h : IsRun gap [] run after) (start : Nat) :
    runs gap start (run ++ after) = ⟨start, run⟩ :: runs gap (start + run.length) after := by
  cases run with
  | nil => exact absurd rfl h.ne_nil
  | cons c cs =>
    have hc : gap c = false := h.solid c List.mem_cons_self
    have htake := h.takeWhile_eq
    have hdrop := h.dropWhile_eq
    simp only [List.cons_append, List.takeWhile_cons, List.dropWhile_cons, hc, Bool.not_false,
      if_true, List.cons.injEq, true_and] at htake hdrop
    rw [List.cons_append, runs, if_neg (by simp [hc]), htake, hdrop]

/-- A character that is no gap starts a run. -/
theorem isRun_takeWhile {c : Char} (hc : gap c = false) (cs : List Char) :
    IsRun gap [] (c :: cs.takeWhile (!gap ·)) (cs.dropWhile (!gap ·)) where
  ne_nil := List.cons_ne_nil _ _
  solid d hd := by
    rcases List.mem_cons.1 hd with rfl | hd
    · exact hc
    · simpa using List.all_eq_true.1 List.all_takeWhile d hd
  left d hd := by simp at hd
  right d hd := by
    have hhead := List.head?_dropWhile_not (!gap ·) cs
    simp_all

/-- A text is read a gap or a run at a time. -/
theorem run_induction (gap : Char → Bool) {motive : List Char → Prop} (nil : motive [])
    (cons : ∀ c cs, gap c = true → motive cs → motive (c :: cs))
    (append : ∀ run after, IsRun gap [] run after → motive after → motive (run ++ after))
    (cs : List Char) : motive cs := by
  induction 0, cs using runs.induct gap with
  | case1 => exact nil
  | case2 start c cs hc ih => exact cons c cs hc ih
  | case3 start c cs hc run ih =>
    have hrun := isRun_takeWhile (by simpa using hc) cs
    have happ := append _ _ hrun ih
    rwa [List.cons_append, List.takeWhile_append_dropWhile] at happ

/-- In a text that starts with a run, every other run comes after it. -/
theorem IsRun.after_first {run after before other rest : List Char}
    (h : IsRun gap [] run after) (ho : IsRun gap before other rest)
    (heq : run ++ after = before ++ other ++ rest) :
    (before = [] ∧ other = run ∧ rest = after) ∨
      ∃ more, before = run ++ more ∧ after = more ++ other ++ rest ∧
        IsRun gap more other rest := by
  rw [List.append_assoc] at heq
  cases hb : before with
  | nil =>
    subst hb
    left
    have hrun := h.takeWhile_eq
    rw [heq, List.nil_append, ho.takeWhile_eq] at hrun
    subst hrun
    exact ⟨rfl, rfl, (List.append_cancel_left heq).symm⟩
  | cons d ds =>
    right
    rw [← hb]
    have hne : before ≠ [] := by rw [hb]; exact List.cons_ne_nil d ds
    rcases List.append_eq_append_iff.1 heq with ⟨more, hmore, hafter⟩ | ⟨more, hmore, hafter⟩
    · refine ⟨more, hmore, by rw [hafter, List.append_assoc], ho.ne_nil, ho.solid, ?_, ho.right⟩
      intro c hc
      apply ho.left
      rw [hmore, List.getLast?_append, hc, Option.some_or]
      exact rfl
    · -- The character before the other run would be in this one, and no gap.
      exfalso
      have hlast := ho.left (before.getLast hne) (List.getLast?_eq_some_getLast hne)
      have hmem : before.getLast hne ∈ run := by
        rw [hmore]
        exact List.mem_append_left _ (List.getLast_mem hne)
      rw [h.solid _ hmem] at hlast
      cases hlast

/-- The runs that are found are all the runs that there are. -/
theorem mem_runs (gap : Char → Bool) {span : Span} {start : Nat} {cs : List Char} :
    span ∈ runs gap start cs ↔
      ∃ before after, cs = before ++ span.text ++ after ∧ span.start = start + before.length ∧
        IsRun gap before span.text after := by
  induction cs using run_induction gap generalizing start with
  | nil =>
    simp only [runs, List.not_mem_nil, false_iff]
    rintro ⟨before, after, heq, -, hrun⟩
    have := hrun.ne_nil
    simp_all
  | cons c cs hc ih =>
    rw [runs_cons_gap hc, ih]
    constructor
    · rintro ⟨before, after, rfl, hstart, hrun⟩
      refine ⟨c :: before, after, rfl, by rw [hstart, List.length_cons]; omega, hrun.ne_nil,
        hrun.solid, ?_, hrun.right⟩
      intro d hd
      cases before with
      | nil =>
        obtain rfl : c = d := by simpa using hd
        exact hc
      | cons b bs =>
        rw [List.getLast?_cons_cons] at hd
        exact hrun.left d hd
    · rintro ⟨before, after, heq, hstart, hrun⟩
      cases before with
      | nil =>
        obtain ⟨d, ds, htext⟩ := List.exists_cons_of_ne_nil hrun.ne_nil
        have hsolid := hrun.solid d (by rw [htext]; exact List.mem_cons_self)
        rw [htext] at heq
        obtain rfl : c = d := by simpa using congrArg List.head? heq
        rw [hc] at hsolid
        cases hsolid
      | cons b bs =>
        obtain ⟨rfl, rfl⟩ : c = b ∧ cs = bs ++ span.text ++ after := by simpa using heq
        refine ⟨bs, after, rfl, by rw [hstart, List.length_cons]; omega, hrun.ne_nil,
          hrun.solid, ?_, hrun.right⟩
        intro d hd
        apply hrun.left
        cases bs with
        | nil => simp at hd
        | cons b' bs => rwa [List.getLast?_cons_cons]
  | append run after hrun ih =>
    rw [runs_append hrun, List.mem_cons, ih]
    constructor
    · rintro (rfl | ⟨before, rest, rfl, hstart, hother⟩)
      · exact ⟨[], after, rfl, rfl, hrun⟩
      · refine ⟨run ++ before, rest, by simp, by rw [hstart, List.length_append]; omega,
          hother.ne_nil, hother.solid, ?_, hother.right⟩
        intro d hd
        cases before with
        | nil =>
          -- Right after a run there is a gap, so no other run starts there.
          obtain ⟨e, es, htext⟩ := List.exists_cons_of_ne_nil hother.ne_nil
          have hsolid := hother.solid e (by rw [htext]; exact List.mem_cons_self)
          rw [hrun.right e (by simp [htext])] at hsolid
          cases hsolid
        | cons b bs =>
          apply hother.left
          rwa [List.getLast?_append, List.getLast?_cons, Option.some_or, ← List.getLast?_cons] at hd
    · rintro ⟨before, rest, heq, hstart, hother⟩
      rcases hrun.after_first hother heq with ⟨rfl, htext, rfl⟩ | ⟨more, rfl, hafter, hmore⟩
      · left
        rw [← htext, ← Nat.add_zero start, ← List.length_nil, ← hstart]
      · exact .inr ⟨more, rest, hafter, by rw [hstart, List.length_append]; omega, hmore⟩

theorem pairwise_runs (gap : Char → Bool) (start : Nat) (cs : List Char) :
    (runs gap start cs).Pairwise fun s t => s.start < t.start := by
  induction cs using run_induction gap generalizing start with
  | nil => simp [runs]
  | cons c cs hc ih =>
    rw [runs_cons_gap hc]
    exact ih (start + 1)
  | append run after hrun ih =>
    rw [runs_append hrun]
    refine List.pairwise_cons.2 ⟨fun t ht => ?_, ih (start + run.length)⟩
    obtain ⟨before, rest, -, hstart, -⟩ := (mem_runs gap).1 ht
    have hpos := List.length_pos_iff.2 hrun.ne_nil
    show start < t.start
    omega

/-- What stands together in a text is in one run. -/
theorem exists_run_of_isInfix {core : List Char} (hcore : core ≠ [])
    (hsolid : ∀ c ∈ core, gap c = false) {before after cs : List Char}
    (hcs : cs = before ++ core ++ after) (start : Nat) :
    ∃ span ∈ runs gap start cs, core <:+: span.text := by
  induction cs using run_induction gap generalizing start before with
  | nil => simp_all
  | cons c cs hc ih =>
    rw [runs_cons_gap hc]
    cases before with
    | nil =>
      obtain ⟨d, ds, rfl⟩ := List.exists_cons_of_ne_nil hcore
      obtain rfl : c = d := by simpa using congrArg List.head? hcs
      rw [hsolid c List.mem_cons_self] at hc
      cases hc
    | cons b bs =>
      obtain ⟨-, hrest⟩ := List.cons.inj hcs
      exact ih hrest (start + 1)
  | append run rest hrun ih =>
    rw [runs_append hrun]
    rw [List.append_assoc] at hcs
    rcases List.append_eq_append_iff.1 hcs with ⟨more, -, hrest⟩ | ⟨more, hmore, hrest⟩
    · obtain ⟨span, hspan, hpart⟩ := ih (by rw [hrest, List.append_assoc]) (start + run.length)
      exact ⟨span, List.mem_cons_of_mem _ hspan, hpart⟩
    · refine ⟨⟨start, run⟩, List.mem_cons_self, ?_⟩
      rcases List.append_eq_append_iff.1 hrest with ⟨tail, htail, -⟩ | ⟨tail, htail, htail'⟩
      · exact ⟨before, tail, by rw [hmore, htail, List.append_assoc]⟩
      · cases tail with
        | nil => exact ⟨before, [], by rw [hmore, htail]; simp⟩
        | cons d ds =>
          -- The text would go on after the run without a gap.
          have hd := hsolid d (by rw [htail]; simp)
          rw [hrun.right d (by simp [htail'])] at hd
          cases hd

end Rpn.Text
