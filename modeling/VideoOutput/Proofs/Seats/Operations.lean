import Mathlib
import VideoOutput.Client.Seats

/-!
# Operations on seats

There is a device of each kind at most. A capability that is gained gives one where there is none
(`gain_cases`), and one that is lost takes the device of its kind, whichever seat loses it
(`lose_of_some`).
-/

namespace VideoOutput

open Wire

namespace Seats

variable {s : Seats} {log : RequestLog} {kind other : DeviceKind} {device : Object}

theorem device?_setDevice (held : Option Object) :
    (s.setDevice held kind).device? other = if other = kind then held else s.device? other := by
  cases kind <;> cases other <;> rfl

theorem gain_cases (s : Seats) (log : RequestLog) (seat : Seat) (kind : DeviceKind) :
    ((s.gain log seat kind).1.device? = s.device? ∧ (s.gain log seat kind).2 = log)
      ∨ s.device? kind = none
        ∧ (∀ other, (s.gain log seat kind).1.device? other
          = if other = kind then some (log.fresh kind.interface) else s.device? other)
        ∧ (s.gain log seat kind).2
          = log.issue ⟨seat.object, kind.verb, [.new (log.fresh kind.interface)]⟩ := by
  have hchosen : (s.chooseIfNone seat.object).device? = s.device? := rfl
  unfold gain
  dsimp only
  split_ifs with hkept
  · exact .inl ⟨rfl, rfl⟩
  all_goals
    rw [hchosen, Bool.or_eq_true, not_or, Option.not_isSome_iff_eq_none] at hkept
    exact .inr ⟨hkept.1, fun other => device?_setDevice _, rfl⟩

theorem lose_of_none (h : s.device? kind = none) : s.lose log kind = (false, s, log) := by
  unfold lose
  rw [h]

theorem lose_of_some (h : s.device? kind = some device) : s.lose log kind
    = (true, s.setDevice none kind, log.issue ⟨device, .release, []⟩) := by
  unfold lose
  rw [h]

/-- Every device is of the interface of its kind. -/
def Typed (s : Seats) : Prop :=
  ∀ kind device, s.device? kind = some device → device.interface = kind.interface

theorem Typed.ne {taken : Object} (h : s.Typed) (hkinds : kind ≠ other)
    (hdevice : s.device? kind = some device) (htaken : s.device? other = some taken) :
    device ≠ taken := by
  rintro rfl
  have hinterface := (h kind device hdevice).symm.trans (h other device htaken)
  cases kind <;> cases other <;> first | exact hkinds rfl | cases hinterface

theorem Typed.gain (h : s.Typed) (log : RequestLog) (seat : Seat) (kind : DeviceKind) :
    (s.gain log seat kind).1.Typed := by
  rcases s.gain_cases log seat kind with ⟨hsame, -⟩ | ⟨-, hdevices, -⟩
  · rwa [Typed, hsame]
  · intro other device hdevice
    rw [hdevices] at hdevice
    split_ifs at hdevice with hkind
    · cases hdevice
      rw [hkind]
      rfl
    · exact h other device hdevice

theorem Typed.lose (h : s.Typed) (log : RequestLog) (kind : DeviceKind) :
    (s.lose log kind).2.1.Typed := by
  rcases hdevice : s.device? kind with _ | device
  · rwa [lose_of_none hdevice]
  · rw [lose_of_some hdevice]
    intro other held hheld
    rw [device?_setDevice] at hheld
    split_ifs at hheld
    exact h other held hheld

end Seats

end VideoOutput
