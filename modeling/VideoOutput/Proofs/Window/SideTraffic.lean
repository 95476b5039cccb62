import VideoOutput.Proofs.Window.Disregard

/-!
# Sizes and side traffic

What a window measures does not depend on its title, its focus or its minimizing, nor on when its
events and requests are taken. It would not depend on its border either, but that a press on a
window with a border looks for no edge: with a reach out of all proportion the search leaves the
word, and a history that goes on with the border stops there without it (`run_measures`,
`exists_press_fault`).
-/

namespace VideoOutput

namespace Window

variable {d : Disregard} {u v w : Window} {op : Op} {ops : List Op}

/-! ## Histories with operations left out -/

/-- The operations that write more than what is disregarded. -/
def stripped (d : Disregard) (ops : List Op) : List Op := ops.filter fun op => !op.isAside d

/-- The two histories part at an operation that looks at what is disregarded. -/
def Parts (d : Disregard) (u w : Window) (ops : List Op) : Prop :=
  ∃ before op after, ops = before ++ op :: after ∧ op.Heeds d
    ∧ ∃ s t, run u (stripped d before) = .ok s ∧ run w before = .ok t
      ∧ without d s = without d t ∧ view d <$> s.step op ≠ view d <$> t.step op

theorem run_cons_eq (w : Window) (op : Op) (ops : List Op) :
    run w (op :: ops) = run w [op] >>= fun v => run v ops :=
  List.foldlM_append (l := [op]) ..

theorem run_stripped_cons (d : Disregard) (w : Window) (op : Op) (ops : List Op) :
    run w (stripped d (op :: ops))
      = run w (stripped d [op]) >>= fun v => run v (stripped d ops) := by
  rw [stripped, ← List.singleton_append, List.filter_append]
  exact List.foldlM_append ..

theorem without_run_singleton (d : Disregard) (w : Window) (op : Op) :
    without d <$> run w [op] = Prod.fst <$> view d <$> w.step op := by
  change without d <$> ((Prod.fst <$> w.step op) >>= _) = _
  cases w.step op with
  | error fault => rfl
  | ok after => cases d <;> rfl

theorem Parts.cons {u' w' : Window} (hu : run u (stripped d [op]) = .ok u')
    (hw : run w [op] = .ok w') (h : Parts d u' w' ops) : Parts d u w (op :: ops) := by
  obtain ⟨before, later, after, rfl, hlater, s, t, hs, ht, hparts⟩ := h
  refine ⟨op :: before, later, after, rfl, hlater, s, t, ?_, ?_, hparts⟩
  · rw [run_stripped_cons, hu]
    exact hs
  · rw [run_cons_eq, hw]
    exact ht

/-- An operation that only writes what is disregarded may be missing. -/
theorem run_stripped_singleton (op : Op) (h : without d u = without d w) :
    without d <$> run u (stripped d [op]) = without d <$> run w [op]
      ∨ ∀ ops, Parts d u w (op :: ops) := by
  by_cases haside : op.isAside d = true
  · obtain ⟨v, r, hstep, hv⟩ := step_aside haside w
    have hstripped : stripped d [op] = [] := by simp [stripped, haside]
    rw [hstripped, run_singleton.2 ⟨r, hstep⟩]
    exact .inl (congrArg Except.ok (h.trans hv.symm))
  · have hstripped : stripped d [op] = [op] := by simp [stripped, haside]
    by_cases hview : view d <$> u.step op = view d <$> w.step op
    · rw [hstripped, without_run_singleton, without_run_singleton, hview]
      exact .inl rfl
    · refine .inr fun ops => ⟨[], op, ops, rfl, ?_, u, w, rfl, rfl, h, hview⟩
      exact not_not.1 fun hop => hview (step_congr hop h)

/-- A history comes to the same without the operations that only write what is disregarded, unless
another of its operations looks at that. -/
theorem run_stripped : ∀ {ops : List Op} {u w : Window}, without d u = without d w →
    without d <$> run u (stripped d ops) = without d <$> run w ops ∨ Parts d u w ops
  | [], _, _, h => .inl (congrArg Except.ok h)
  | op :: ops, u, w, h => by
    rcases run_stripped_singleton op h with hop | hparts
    · rw [run_stripped_cons, run_cons_eq]
      rcases map_eq_map_cases hop with ⟨fault, hu, hw⟩ | ⟨u', w', hu, hw, h'⟩
      · rw [hu, hw]
        exact .inl rfl
      · rw [hu, hw]
        exact (run_stripped h').imp_right (.cons hu hw)
    · exact .inr (hparts ops)

/-! ## What is measured -/

/-- The sizes of the window, their scaling, and the states that they depend on. -/
def measures (w : Window) : Rect × Rect × Rect × Int × Negotiated Bool × Negotiated Bool :=
  (w.geometry, w.windowSize, w.naturalSize, w.scaling, w.fullscreen, w.maximized)

theorem measures_of_without (h : without d u = without d w) : u.measures = w.measures := by
  have hkept : ∀ w, measures w = measures (without d w) := by
    intro w
    simp only [measures, without_keeps]
  rw [hkept u, h, ← hkept w]

theorem run_stripped_traffic (w : Window) (ops : List Op) :
    without .traffic <$> run w (stripped .traffic ops) = without .traffic <$> run w ops := by
  refine (run_stripped rfl).resolve_right ?_
  rintro ⟨before, op, after, rfl, hop, -⟩
  cases op <;> exact hop

/-! ## Presses -/

/-- The operations that heed the decoration are the presses. With a border in the way they look for
no edge. -/
theorem step_press_of_border (hop : op.Heeds .decoration) (hfilling : w.isFilling = false)
    (hborder : w.border = true) : w.step op = .ok (w, .request (some .move)) := by
  have hgrab : ∀ x y reach, w.grab x y reach = .ok .move := by
    intro x y reach
    unfold grab
    rw [hborder, Bool.or_true]
    rfl
  cases op with
  | pointerPressed x y =>
    change (w.pointerPressed x y >>= _) = _
    rw [pointerPressed, hfilling, hgrab]
    rfl
  | touchDown x y =>
    change (w.touchDown x y >>= _) = _
    rw [touchDown, hgrab]
    rfl
  | _ => exact absurd hop id

theorem step_press_of_filling (hop : op.Heeds .decoration) (hfilling : w.isFilling = true) :
    ∃ r, w.step op = .ok (w, r) := by
  cases op with
  | pointerPressed x y =>
    change ∃ r, (w.pointerPressed x y >>= _) = _
    rw [pointerPressed, hfilling]
    exact ⟨_, rfl⟩
  | touchDown x y =>
    change ∃ r, (w.touchDown x y >>= _) = _
    rw [touchDown, grab, hfilling]
    exact ⟨_, rfl⟩
  | _ => exact absurd hop id

theorem step_press_ok {r : Reply} (hop : op.Heeds .decoration) (h : w.step op = .ok (v, r)) :
    v = w := by
  cases op with
  | pointerPressed x y =>
    obtain ⟨_, -, h⟩ := bind_eq_ok.1 h
    exact (Prod.mk.inj (pure_eq_ok.1 h)).1.symm
  | touchDown x y =>
    obtain ⟨_, -, h⟩ := bind_eq_ok.1 h
    exact (Prod.mk.inj (pure_eq_ok.1 h)).1.symm
  | _ => exact absurd hop id

theorem step_press_congr (hop : op.Heeds .decoration)
    (h : without .decoration u = without .decoration w) (hborder : u.border = w.border) :
    view .decoration <$> u.step op = view .decoration <$> w.step op := by
  have hoptions : u.options = w.options := by
    simpa only [without_keeps] using congrArg Window.options h
  have hgeometry : u.geometry = w.geometry := by
    simpa only [without_keeps] using congrArg Window.geometry h
  have hfilling : u.isFilling = w.isFilling := by
    simpa only [without_keeps] using congrArg isFilling h
  have hgrab : ∀ x y reach, u.grab x y reach = w.grab x y reach := by
    intro x y reach
    rw [grab, hfilling, hborder, hgeometry]
    rfl
  cases op with
  | pointerPressed x y =>
    have hpress : u.pointerPressed x y = w.pointerPressed x y := by
      rw [pointerPressed, hfilling, hoptions, hgrab]
      rfl
    exact view_of_answer hpress .request h
  | touchDown x y =>
    have hpress : u.touchDown x y = w.touchDown x y := by
      rw [touchDown, hoptions, hgrab]
      rfl
    exact view_of_answer hpress (fun request => .request (some request)) h
  | _ => exact absurd hop id

/-- A press that finds the border in the way of its edges. Without the operations on the border
there are edges to look for, and the search leaves the word. -/
def PressFaults (w : Window) (ops : List Op) : Prop :=
  ∃ before press after, ops = before ++ press :: after ∧ press.Heeds .decoration
    ∧ ∃ t u, run w before = .ok t ∧ t.border = true
      ∧ t.step press = .ok (t, .request (some .move))
      ∧ run w (stripped .decoration before) = .ok u ∧ u.border = false
      ∧ u.measures = t.measures ∧ ∃ fault, u.step press = .error fault

theorem Parts.pressFaults (h : Parts .decoration w w ops) (hrun : run w ops = .ok v) :
    PressFaults w ops := by
  obtain ⟨before, press, after, rfl, hpress, u, t, hu, ht, hsame, hparts⟩ := h
  obtain ⟨t', hbefore, hafter⟩ := run_append.1 hrun
  obtain rfl : t = t' := Except.ok.inj (ht.symm.trans hbefore)
  obtain ⟨t', r, hstep, -⟩ := run_cons.1 hafter
  obtain rfl : t = t' := (step_press_ok hpress hstep).symm
  -- a press that answered would not part the histories, as it changes no window
  have hnone : ∀ r', u.step press ≠ .ok (u, r') := by
    intro r' hu'
    refine hparts ?_
    rw [hu', hstep]
    exact congrArg (fun s => Except.ok (s, Reply.none)) hsame
  have hfilling : u.isFilling = false := by
    rw [← Bool.not_eq_true]
    intro hfilling
    obtain ⟨r', hr'⟩ := step_press_of_filling hpress hfilling
    exact hnone r' hr'
  have hborder : u.border = false := by
    rw [← Bool.not_eq_true]
    exact fun hborder => hnone _ (step_press_of_border hpress hfilling hborder)
  -- with the same border both would look for the same edge
  have hborder' : t.border = true := by
    rw [← Bool.not_eq_false]
    exact fun h => hparts (step_press_congr hpress hsame (hborder.trans h.symm))
  have hfilling' : t.isFilling = false := by
    rw [← hfilling]
    simpa only [without_keeps] using congrArg isFilling hsame.symm
  refine ⟨before, press, after, rfl, hpress, t, u, ht, hborder',
    step_press_of_border hpress hfilling' hborder', hu, hborder, measures_of_without hsame, ?_⟩
  cases hstep' : u.step press with
  | error fault => exact ⟨fault, rfl⟩
  | ok result =>
    obtain rfl := step_press_ok hpress (v := result.1) (r := result.2) hstep'
    exact absurd hstep' (hnone _)

/-- The sizes at the end of a history are the same without its traffic, and histories that differ
only in that end with the same ones. Nor do the operations on the border matter, up to a press that
has no result without them. -/
theorem run_measures (h : run w ops = .ok v) {pre : List Op} (hpre : pre <+: ops) :
    ∃ t, run w pre = .ok t
      ∧ (∀ ops', stripped .traffic ops' = stripped .traffic pre →
        ∃ u, run w ops' = .ok u ∧ u.measures = t.measures)
      ∧ (∃ u, run w (stripped .traffic pre) = .ok u ∧ u.measures = t.measures)
      ∧ ((∃ u, run w (stripped .decoration pre) = .ok u ∧ u.measures = t.measures)
        ∨ PressFaults w pre) := by
  obtain ⟨after, rfl⟩ := hpre
  obtain ⟨t, ht, -⟩ := run_append.1 h
  have hsame : ∀ ops', without .traffic <$> run w ops' = without .traffic <$> run w pre →
      ∃ u, run w ops' = .ok u ∧ u.measures = t.measures := by
    intro ops' hops'
    rw [ht] at hops'
    obtain ⟨u, hu, hut⟩ := map_eq_ok.1 hops'
    exact ⟨u, hu, measures_of_without hut⟩
  refine ⟨t, ht, fun ops' hops' => hsame _ ?_, hsame _ (run_stripped_traffic w pre), ?_⟩
  · rw [← run_stripped_traffic, hops', run_stripped_traffic]
  · rcases run_stripped (d := .decoration) (rfl : without .decoration w = _) with hrun | hparts
    · rw [ht] at hrun
      obtain ⟨u, hu, hut⟩ := map_eq_ok.1 hrun
      exact .inl ⟨u, hu, measures_of_without hut⟩
    · exact .inr (hparts.pressFaults ht)

/-- A window in fullscreen that is named, focused, given a border and asked for its events. -/
def busy : List Op :=
  [.initDecorations true, .setTitle [65], .reconfig 1920 1080, .takeEvents, .keyboardFocus true,
    .configureToplevel 1280 720 [.fullscreen], .configureDecoration .serverSide, .takeRequests,
    .configureSurface]

theorem run_measures_busy : ∃ w, run (new {}) busy = .ok w ∧ w.geometry = .ofSize 1280 720
    ∧ (∃ u, run (new {}) (stripped .traffic busy) = .ok u ∧ u.measures = w.measures)
    ∧ ∃ u, run (new {}) (stripped .decoration busy) = .ok u ∧ u.measures = w.measures := by
  obtain ⟨w, hw, hgeometry⟩ : ∃ w, run (new {}) busy = .ok w ∧ w.geometry = .ofSize 1280 720 := by
    decide +kernel
  obtain ⟨t, ht, -, htraffic, hdecoration⟩ := run_measures hw List.prefix_rfl
  obtain rfl : w = t := Except.ok.inj (hw.symm.trans ht)
  have hpresses : ∀ op ∈ busy, ¬ op.Heeds .decoration := by simp [busy, Op.Heeds]
  refine ⟨w, hw, hgeometry, htraffic, hdecoration.resolve_right ?_⟩
  rintro ⟨before, press, after, hbusy, hpress, -⟩
  exact hpresses press (by simp [hbusy]) hpress

/-- With the border a touch moves the window. Without it the far zones begin after the word. -/
theorem exists_press_fault : ¬ ∀ (options : WindowOptions) (ops : List Op) (w : Window),
    run (new options) ops = .ok w →
    ∃ v, run (new options) (stripped .decoration ops) = .ok v ∧ v.measures = w.measures := by
  intro hall
  obtain ⟨w, hw, -⟩ : ∃ w, run (new { touchReach := -2147483648 })
      [.initDecorations true, .configureDecoration .serverSide, .touchDown 5 5] = .ok w
      ∧ w.border = true := by
    decide +kernel
  obtain ⟨v, hv, -⟩ := hall _ _ w hw
  have hfault : run (new { touchReach := -2147483648 }) [.touchDown 5 5]
      = .error .subtractOverflow := rfl
  cases hfault.symm.trans hv

end Window

end VideoOutput
