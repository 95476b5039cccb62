import VideoOutput.Proofs.Window.Disregard

/-!
# Configures that no one acknowledges

A configure waits until the surface configure that ends its sequence, and only that looks at it. So
histories that differ in what waits, and in the phase, answer alike up to there
(`transcript_congr`), and the next configure takes away the difference: a configure that is
superseded before its acknowledgement was as good as never sent (`run_superseded`).
-/

namespace VideoOutput

namespace Window

variable {u w : Window} {ops : List Op}

/-- What the operations answer, one by one, and the window after them. -/
def transcript (w : Window) : List Op → Except ArithmeticFault (List Reply × Window)
  | [] => return ([], w)
  | op :: ops => do
    let (v, reply) ← w.step op
    let (replies, last) ← transcript v ops
    return (reply :: replies, last)

theorem snd_transcript : ∀ (ops : List Op) (w : Window),
    Prod.snd <$> transcript w ops = run w ops
  | [], _ => rfl
  | op :: ops, w => by
    change Prod.snd <$> (w.step op >>= _) = (Prod.fst <$> w.step op) >>= fun v => run v ops
    cases w.step op with
    | error fault => rfl
    | ok after =>
      change Prod.snd <$> (transcript after.1 ops >>= _) = run after.1 ops
      rw [← snd_transcript ops]
      cases transcript after.1 ops <;> rfl

theorem transcript_append (ops' : List Op) : ∀ (ops : List Op) (w : Window),
    transcript w (ops ++ ops') = do
      let (replies, v) ← transcript w ops
      let (replies', last) ← transcript v ops'
      return (replies ++ replies', last)
  | [], w => by
    change _ = transcript w ops' >>= _
    cases h : transcript w ops' <;> exact h
  | op :: ops, w => by
    change (w.step op >>= _) = (w.step op >>= _) >>= _
    cases w.step op with
    | error fault => rfl
    | ok after =>
      change (transcript after.1 (ops ++ ops') >>= _) = (transcript after.1 ops >>= _) >>= _
      rw [transcript_append ops' ops]
      cases transcript after.1 ops with
      | error fault => rfl
      | ok middle =>
        change ((transcript middle.2 ops' >>= _) >>= _) = transcript middle.2 ops' >>= _
        cases transcript middle.2 ops' <;> rfl

/-- The window after some operations, with no configure waiting. -/
def unawaited (after : List Reply × Window) : List Reply × Window :=
  (after.1, without .waiting after.2)

/-- Until the acknowledgement the answers do not tell which configure waits, and the windows go on
to differ in nothing else. -/
theorem transcript_congr : ∀ {ops : List Op} {u w : Window}, .configureSurface ∉ ops →
    without .waiting u = without .waiting w →
    unawaited <$> transcript u ops = unawaited <$> transcript w ops
  | [], _, _, _, h => congrArg (fun v => Except.ok ([], v)) h
  | op :: ops, u, w, hops, h => by
    obtain ⟨hop, hrest⟩ := not_or.1 (mt List.mem_cons.2 hops)
    have hheeds : ¬ op.Heeds .waiting := by
      cases op <;> first | exact id | exact absurd rfl hop
    refine bind_congr_of_map (step_congr hheeds h) fun a b hab => ?_
    obtain ⟨hwindow, hreply⟩ := Prod.mk.inj hab
    refine bind_congr_of_map (transcript_congr hrest hwindow) fun a' b' hab' => ?_
    obtain ⟨hreplies, hlast⟩ := Prod.mk.inj hab'
    exact congrArg Except.ok (Prod.ext (congrArg₂ List.cons hreply hreplies) hlast)

/-- A configure takes the place of whatever waited. -/
theorem transcript_concat_configure (w : Window) (ops : List Op) (width height : Int)
    (states : ToplevelStates) :
    transcript w (ops ++ [.configureToplevel width height states])
      = (fun after => (after.1 ++ [.none], after.2.configureToplevel width height states))
        <$> unawaited <$> transcript w ops := by
  rw [transcript_append]
  cases transcript w ops <;> rfl

/-- A configure that is followed by another before its acknowledgement changes nothing: the window
comes out the same in all its parts, everything in between answers the same, and no operation has a
result less or more. -/
theorem run_superseded (hops : .configureSurface ∉ ops) (width height width' height' : Int)
    (states states' : ToplevelStates) :
    run w (Op.configureToplevel width height states :: ops
        ++ [Op.configureToplevel width' height' states'])
      = run w (ops ++ [Op.configureToplevel width' height' states'])
    ∧ transcript w (Op.configureToplevel width height states :: ops
        ++ [Op.configureToplevel width' height' states'])
      = Prod.map (Reply.none :: ·) id
        <$> transcript w (ops ++ [Op.configureToplevel width' height' states']) := by
  have hcons : transcript w (Op.configureToplevel width height states :: ops
        ++ [Op.configureToplevel width' height' states'])
      = Prod.map (Reply.none :: ·) id <$> transcript (w.configureToplevel width height states)
        (ops ++ [Op.configureToplevel width' height' states']) := by
    change transcript (w.configureToplevel width height states) _ >>= _ = _
    cases transcript (w.configureToplevel width height states) _ <;> rfl
  have hsame : transcript (w.configureToplevel width height states)
        (ops ++ [Op.configureToplevel width' height' states'])
      = transcript w (ops ++ [Op.configureToplevel width' height' states']) := by
    rw [transcript_concat_configure, transcript_concat_configure, transcript_congr hops]
    rfl
  rw [hsame] at hcons
  refine ⟨?_, hcons⟩
  rw [← snd_transcript, ← snd_transcript, hcons]
  cases transcript w _ <;> rfl

/-- A size that the compositor gives a window in fullscreen, and takes back while a new video comes
in and the client asks for a border. -/
theorem run_superseded_fullscreen : .configureSurface ∉ [Op.reconfig 1920 1080, .setBorder true]
    ∧ ∃ w, run (new {}) (Op.configureToplevel 1280 720 [.fullscreen]
        :: [.reconfig 1920 1080, .setBorder true] ++ [Op.configureToplevel 640 480 []]) = .ok w
      ∧ run (new {}) ([.reconfig 1920 1080, .setBorder true] ++ [Op.configureToplevel 640 480 []])
        = .ok w
      ∧ w.pending = some ⟨640, 480, []⟩ := by
  have hops : .configureSurface ∉ [Op.reconfig 1920 1080, .setBorder true] := by simp
  obtain ⟨w, hw, hpending⟩ : ∃ w, run (new {}) ([.reconfig 1920 1080, .setBorder true]
      ++ [Op.configureToplevel 640 480 []]) = .ok w ∧ w.pending = some ⟨640, 480, []⟩ := by
    decide +kernel
  exact ⟨hops, w, (run_superseded hops 1280 720 640 480 [.fullscreen] []).1.trans hw, hw, hpending⟩

end Window

end VideoOutput
