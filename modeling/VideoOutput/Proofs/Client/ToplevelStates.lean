import VideoOutput.Client.Reaction
import VideoOutput.Proofs.Window.Modes

/-!
# Modes from raw states

A configure carries its states as bytes, four to a state. `modes_tracked` follows them into the
window: which modes a configure decides is read off the aligned numbers in its bytes, and the modes
in force are those of the last configure that took effect.
-/

namespace VideoOutput

open Window

namespace ToplevelState

theorem ofCode?_eq_fullscreen {n : Nat} : ofCode? n = some fullscreen ↔ n = 2 := by
  unfold ofCode?
  split <;> simp_all

theorem ofCode?_eq_activated {n : Nat} : ofCode? n = some activated ↔ n = 4 := by
  unfold ofCode?
  split <;> simp_all

/-- The numbers of the states that fill: maximized, and tiled to each side. -/
theorem fillsArea_ofCode? {n : Nat} :
    (∃ s, ofCode? n = some s ∧ s.fillsArea = true) ↔ n ∈ [1, 5, 6, 7, 8] := by
  unfold ofCode?
  split <;> simp_all [fillsArea]

end ToplevelState

namespace Client

/-- The number in the four bytes from place `4 * k` on, lowest byte first. -/
def wordAt? (bytes : List UInt8) (k : Nat) : Option Nat :=
  match bytes[4 * k]?, bytes[4 * k + 1]?, bytes[4 * k + 2]?, bytes[4 * k + 3]? with
  | some a, some b, some c, some d =>
    some (a.toNat + 2 ^ 8 * b.toNat + 2 ^ 16 * c.toNat + 2 ^ 24 * d.toNat)
  | _, _, _, _ => none

/-- One of the aligned numbers in the bytes is `n`. -/
def Carries (bytes : List UInt8) (n : Nat) : Prop := ∃ k, wordAt? bytes k = some n

theorem wordAt?_succ (a b c d : UInt8) (rest : List UInt8) (k : Nat) :
    wordAt? (a :: b :: c :: d :: rest) (k + 1) = wordAt? rest k := by
  unfold wordAt?
  rw [show 4 * (k + 1) = 4 * k + 3 + 1 by omega]
  simp only [List.getElem?_cons_succ]

theorem littleEndian_word (a b c d : UInt8) : littleEndian [a, b, c, d]
    = a.toNat + 2 ^ 8 * b.toNat + 2 ^ 16 * c.toNat + 2 ^ 24 * d.toNat := by
  simp only [littleEndian]
  omega

theorem mem_wordsOfBytes {n : Nat} : ∀ {bytes : List UInt8},
    n ∈ wordsOfBytes bytes ↔ Carries bytes n
  | [] => by simp [wordsOfBytes, Carries, wordAt?]
  | [_] => by simp [wordsOfBytes, Carries, wordAt?]
  | [_, _] => by simp [wordsOfBytes, Carries, wordAt?]
  | [_, _, _] => by simp [wordsOfBytes, Carries, wordAt?]
  | a :: b :: c :: d :: rest => by
    rw [wordsOfBytes, List.mem_cons, mem_wordsOfBytes, littleEndian_word]
    constructor
    · rintro (rfl | ⟨k, hk⟩)
      · exact ⟨0, rfl⟩
      · exact ⟨k + 1, (wordAt?_succ a b c d rest k).trans hk⟩
    · rintro ⟨k, hk⟩
      rcases k with _ | k
      · exact .inl (Option.some.inj hk).symm
      · exact .inr ⟨k, (wordAt?_succ a b c d rest k).symm.trans hk⟩

theorem mem_toplevelStates {s : ToplevelState} {bytes : List UInt8} :
    s ∈ toplevelStates bytes ↔ ∃ n, Carries bytes n ∧ ToplevelState.ofCode? n = some s := by
  simp only [toplevelStates, List.mem_filterMap, mem_wordsOfBytes]

theorem isFullscreen_toplevelStates {bytes : List UInt8} :
    (toplevelStates bytes).isFullscreen = true ↔ Carries bytes 2 := by
  simp only [ToplevelStates.isFullscreen, List.contains_iff_mem, mem_toplevelStates,
    ToplevelState.ofCode?_eq_fullscreen, exists_eq_right]

theorem isActivated_toplevelStates {bytes : List UInt8} :
    (toplevelStates bytes).isActivated = true ↔ Carries bytes 4 := by
  simp only [ToplevelStates.isActivated, List.contains_iff_mem, mem_toplevelStates,
    ToplevelState.ofCode?_eq_activated, exists_eq_right]

theorem isMaximized_toplevelStates {bytes : List UInt8} :
    (toplevelStates bytes).isMaximized = true ↔ ∃ n ∈ [1, 5, 6, 7, 8], Carries bytes n := by
  simp only [ToplevelStates.isMaximized, List.any_eq_true, mem_toplevelStates,
    ← ToplevelState.fillsArea_ofCode?]
  constructor
  · rintro ⟨s, ⟨n, hn, hs⟩, hfills⟩
    exact ⟨n, ⟨s, hs, hfills⟩, hn⟩
  · rintro ⟨n, ⟨s, hs, hfills⟩, hn⟩
    exact ⟨s, ⟨n, hn, hs⟩, hfills⟩

/-- Bytes that carry the same of the seven numbers decide the same modes. -/
theorem modes_toplevelStates_congr {bytes bytes' : List UInt8}
    (h : ∀ n ∈ [1, 2, 4, 5, 6, 7, 8], Carries bytes n ↔ Carries bytes' n) :
    (toplevelStates bytes).modes = (toplevelStates bytes').modes := by
  have hfills : ∀ n ∈ [1, 5, 6, 7, 8], Carries bytes n ↔ Carries bytes' n := fun n hn =>
    h n ((by decide : [1, 5, 6, 7, 8] ⊆ [1, 2, 4, 5, 6, 7, 8]) hn)
  unfold ToplevelStates.modes
  congr 1 <;> rw [Bool.eq_iff_iff]
  · rw [isFullscreen_toplevelStates, isFullscreen_toplevelStates]
    exact h 2 (by decide)
  · rw [isMaximized_toplevelStates, isMaximized_toplevelStates]
    exact ⟨fun ⟨n, hn, hc⟩ => ⟨n, hn, (hfills n hn).1 hc⟩,
      fun ⟨n, hn, hc⟩ => ⟨n, hn, (hfills n hn).2 hc⟩⟩
  · rw [isActivated_toplevelStates, isActivated_toplevelStates]
    exact h 4 (by decide)

/-- The focus, and the modes in force, after any history; and the modes of a configure, from its
bytes. -/
theorem modes_tracked :
    (∀ (options : WindowOptions) (ops : List Op) (w : Window),
      run (Window.new options) ops = .ok w →
      w.focused = (w.activated && w.hasKeyboard)
      ∧ w.modes = lastModes {} (decided (Window.new options) none ops)
      ∧ ∀ (op : Op) (v : Window) (r : Reply), w.step op = .ok (v, r) →
        (op.decides w (waitingAfter none ops) = none → v.modes = w.modes)
        ∧ ∀ c, op.decides w (waitingAfter none ops) = some c → v.modes = c.states.modes
          ∧ v.fullscreen.requested = none ∧ v.maximized.requested = none)
    ∧ ∀ bytes : List UInt8,
      (∀ (c : Client) (target : Wire.Object) (width height : Int),
        (react ⟨target, .toplevelConfigure width height bytes⟩).run c = (.ok (),
          { c with window := c.window.configureToplevel width height (toplevelStates bytes) }))
      ∧ ((toplevelStates bytes).isFullscreen = true ↔ Carries bytes 2)
      ∧ ((toplevelStates bytes).isMaximized = true ↔ ∃ n ∈ [1, 5, 6, 7, 8], Carries bytes n)
      ∧ ((toplevelStates bytes).isActivated = true ↔ Carries bytes 4)
      ∧ ∀ bytes', (∀ n ∈ [1, 2, 4, 5, 6, 7, 8], Carries bytes n ↔ Carries bytes' n) →
        (toplevelStates bytes).modes = (toplevelStates bytes').modes := by
  constructor
  · intro options ops w h
    obtain ⟨hpending, -⟩ := run_configures h
    have hstart : (Window.new options).modes = {} := by
      unfold Window.modes Window.new
      split_ifs <;> rfl
    refine ⟨run_attentive h rfl, ?_, fun op v r hstep => ?_⟩
    · rw [run_modes h, hstart]
      rfl
    · have hwaiting : w.pending = waitingAfter none ops := hpending
      rw [← hwaiting]
      exact step_modes hstep
  · intro bytes
    exact ⟨fun c target width height => rfl, isFullscreen_toplevelStates,
      isMaximized_toplevelStates, isActivated_toplevelStates,
      fun _ => modes_toplevelStates_congr⟩

/-- Fullscreen and activated, between numbers that mean nothing and a byte that is left over. -/
def fullscreenBytes : List UInt8 := [232, 3, 0, 0, 2, 0, 0, 0, 4, 0, 0, 0, 2, 0, 0, 0, 255]

theorem modes_tracked_fullscreen : ∃ w, run (Window.new {}) [.reconfig 1920 1080,
      .configureToplevel 1280 720 (toplevelStates fullscreenBytes), .configureSurface,
      .setFullscreen false, .keyboardFocus true] = .ok w
    ∧ w.focused = (w.activated && w.hasKeyboard) ∧ w.modes = ⟨true, false, true⟩
    ∧ (toplevelStates fullscreenBytes).modes = (toplevelStates [4, 0, 0, 0, 2, 0, 0, 0]).modes := by
  obtain ⟨hwindow, hbytes⟩ := modes_tracked
  obtain ⟨w, hw, -⟩ : ∃ w, run (Window.new {}) [.reconfig 1920 1080,
      .configureToplevel 1280 720 (toplevelStates fullscreenBytes), .configureSurface,
      .setFullscreen false, .keyboardFocus true] = .ok w ∧ w.hasKeyboard = true := by
    decide +kernel
  obtain ⟨hfocus, hmodes, -⟩ := hwindow {} _ w hw
  obtain ⟨-, -, -, -, hsame⟩ := hbytes fullscreenBytes
  refine ⟨w, hw, hfocus, ?_, hsame _ fun n hn => ?_⟩
  · rw [hmodes]
    decide +kernel
  · rw [← mem_wordsOfBytes, ← mem_wordsOfBytes]
    revert n
    decide

end Client

end VideoOutput
