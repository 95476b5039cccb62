import VideoOutput.Client.Outputs
import VideoOutput.Proofs.Window.Scale

/-!
# Operations on outputs

What each operation does to the outputs that are offered (`Outputs.live`), to what is known of each
of them (`info?`), and to the window's scale: that is decided by an output that is entered
(`enter_ok`) and by the current one when it is described anew (`done_ok`).
-/

namespace VideoOutput

open Wire

namespace Outputs

variable {o o' : Outputs} {w v : Window} {output x : Object}

/-- The outputs that are offered. -/
def live (o : Outputs) : List Object := o.tracked.map TrackedOutput.object

/-! ## One output described anew -/

/-- Changes what is tracked of an output. -/
def update (o : Outputs) (output : Object) (change : TrackedOutput → TrackedOutput) : Outputs :=
  { o with tracked := o.tracked.map fun t => if t.object = output then change t else t }

section Update

variable {change : TrackedOutput → TrackedOutput} (h : ∀ t, (change t).object = t.object)
include h

theorem live_update : (o.update output change).live = o.live := by
  unfold live update
  rw [List.map_map]
  refine List.map_congr_left fun t _ => ?_
  rw [Function.comp_apply]
  split_ifs
  · exact h t
  · rfl

theorem find?_update : (o.update output change).tracked.find? (·.object = x)
    = (o.tracked.find? (·.object = x)).map fun t => if t.object = output then change t else t := by
  unfold update
  rw [List.find?_map]
  congr 2
  funext t
  rw [Function.comp_apply]
  split_ifs
  · rw [h]
  · rfl

theorem info?_update_of_ne (hx : x ≠ output) : (o.update output change).info? x = o.info? x := by
  rw [info?, find?_update h, info?]
  rcases hfound : o.tracked.find? (·.object = x) with _ | t
  · rw [hfound]
    rfl
  · have hobject : t.object = x := by simpa using List.find?_some hfound
    rw [hfound, Option.map_some, if_neg (by rwa [hobject])]

end Update

theorem live_describe (change : OutputDescription → OutputDescription) :
    (o.describe output change).live = o.live :=
  live_update fun _ => rfl

theorem info?_describe (change : OutputDescription → OutputDescription) :
    (o.describe output change).info? x = o.info? x := by
  let redescribe (t : TrackedOutput) := { t with described := change t.described }
  have hfound : (o.update output redescribe).tracked.find? (·.object = x)
      = (o.tracked.find? (·.object = x)).map fun t =>
        if t.object = output then redescribe t else t :=
    find?_update fun _ => rfl
  have hupdate : o.describe output change = o.update output redescribe := rfl
  rw [info?, hupdate, hfound, info?, Option.bind_map]
  congr 1
  funext t
  rw [Function.comp_apply]
  split_ifs <;> rfl

/-- An output that is done takes what it said for what is known of it, and if it is the current one
the window takes its scale. -/
theorem done_ok (h : o.done w output = .ok (o', v)) :
    (output ∉ o.live ∧ o' = o ∧ v = w)
      ∨ ∃ info, o'.info? output = some info ∧ (∀ x ≠ output, o'.info? x = o.info? x)
        ∧ o'.live = o.live ∧ o'.entered = o.entered ∧ o'.current = o.current
        ∧ (o.current = some output ∧ v.scaleState
            = (w.targetScaling info.scale, w.hasOutput, w.options.scaleWithOutput)
          ∨ o.current ≠ some output ∧ v.scaleState = w.scaleState) := by
  unfold done at h
  rcases hfound : o.tracked.find? (·.object = output) with _ | t
  · rw [hfound] at h
    cases h
    refine .inl ⟨fun hlive => ?_, rfl, rfl⟩
    obtain ⟨t, ht, hobject⟩ := List.mem_map.1 hlive
    simpa [hobject] using List.find?_eq_none.1 hfound t ht
  · rw [hfound] at h
    obtain ⟨info, -, h⟩ := bind_eq_ok.1 h
    obtain ⟨window, hdone, h⟩ := bind_eq_ok.1 h
    cases h
    have hobject : t.object = output := by simpa using List.find?_some hfound
    let fill (t : TrackedOutput) := { t with info := some info }
    have hfill (t : TrackedOutput) : (fill t).object = t.object := rfl
    have hfilled : (o.update output fill).info? output = some info := by
      rw [info?, find?_update hfill, hfound]
      simp [fill, hobject]
    refine .inr ⟨info, hfilled, fun x hx => info?_update_of_ne hfill hx, live_update hfill,
      rfl, rfl, ?_⟩
    by_cases hcurrent : o.current = some output
    · rw [decide_eq_true hcurrent] at hdone
      exact .inl ⟨hcurrent, Window.outputDone_scale hdone⟩
    · rw [decide_eq_false hcurrent] at hdone
      rw [Window.outputDone_of_not_current hdone]
      exact .inr ⟨hcurrent, rfl⟩

/-! ## Outputs that come and go -/

theorem live_track (t : TrackedOutput) : (o.track t).live = o.live ++ [t.object] := List.map_append

theorem info?_track {t : TrackedOutput} (h : x ≠ t.object) : (o.track t).info? x = o.info? x := by
  have hnone : [t].find? (·.object = x) = none := by simp [h.symm]
  rw [info?, track, List.find?_append, hnone, Option.or_none, info?]

theorem live_remove : (o.remove w output).1.live = o.live.filter (· ≠ output) := by
  unfold live remove
  rw [List.filter_map]
  rfl

theorem info?_remove (h : x ≠ output) : (o.remove w output).1.info? x = o.info? x := by
  unfold info? remove
  rw [List.find?_filter]
  congr 2
  funext t
  by_cases ht : t.object = x <;> simp [ht, h]

/-! ## The surface -/

/-- From the first current output on, an output that is entered is the current one, and if it is
known the window takes its scale. -/
theorem enter_ok (h : o.enter w output = .ok (o', v)) : o'.tracked = o.tracked
    ∧ o'.entered = (if output ∈ o.entered then o.entered else o.entered ++ [output])
    ∧ (o.current = none ∧ o'.current = none ∧ v.scaleState = w.scaleState
      ∨ o.current ≠ none ∧ o'.current = some output
        ∧ (o.info? output = none ∧ v.scaleState = w.scaleState
          ∨ ∃ info, o.info? output = some info ∧ v.scaleState
            = (w.targetScaling info.scale, w.hasOutput, w.options.scaleWithOutput))) := by
  have hentered : (if o.entered.contains output then o
      else { o with entered := o.entered ++ [output] })
      = { o with entered :=
          if output ∈ o.entered then o.entered else o.entered ++ [output] } := by
    simp only [List.contains_iff_mem]
    split_ifs <;> rfl
  unfold enter at h
  dsimp only at h
  rw [hentered] at h
  by_cases hcurrent : o.current = none
  · rw [if_pos (by simp [hcurrent])] at h
    cases h
    exact ⟨rfl, rfl, .inl ⟨hcurrent, hcurrent, rfl⟩⟩
  · rw [if_neg (by simp [hcurrent])] at h
    rcases hinfo : o.info? output with _ | info
    · have hunknown : ({ o with
          entered := if output ∈ o.entered then o.entered else o.entered ++ [output]
          current := some output } : Outputs).info? output = none := hinfo
      rw [hunknown] at h
      cases h
      exact ⟨rfl, rfl, .inr ⟨hcurrent, rfl, .inl ⟨rfl, rfl⟩⟩⟩
    · have hknown : ({ o with
          entered := if output ∈ o.entered then o.entered else o.entered ++ [output]
          current := some output } : Outputs).info? output = some info := hinfo
      rw [hknown] at h
      obtain ⟨window, hwindow, h⟩ := bind_eq_ok.1 h
      cases h
      exact ⟨rfl, rfl, .inr ⟨hcurrent, rfl, .inr
        ⟨info, rfl, Window.surfaceEntered_scale hwindow⟩⟩⟩

theorem mem_known {info : OutputInfo} (h : (x, info) ∈ o.known) : x ∈ o.live := by
  obtain ⟨t, ht, hinfo⟩ := List.mem_filterMap.1 h
  obtain ⟨_, -, heq⟩ := Option.map_eq_some_iff.1 hinfo
  exact List.mem_map.2 ⟨t, ht, congrArg Prod.fst heq⟩

theorem choose_live {index : Option Nat} {name : Option String}
    (h : o.choose index name = some output) : output ∈ o.live := by
  obtain ⟨i, -, hi⟩ := Option.bind_eq_some_iff.1 h
  obtain ⟨⟨chosen, info⟩, hget, rfl⟩ := Option.map_eq_some_iff.1 hi
  exact mem_known (List.mem_of_getElem? hget)

end Outputs

end VideoOutput
