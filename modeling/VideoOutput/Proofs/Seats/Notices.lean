import VideoOutput.Proofs.Exchange.Freshness

/-!
# Who takes a device away

Seats come and go, and gain and lose capabilities (`SeatNotice`); every event about seats is a list
of such notices (`announced_seat`, `withdrawn_seat`, `setCapabilities_eq`). The client keeps a
device of each kind. It is released as soon as a seat loses the capability, also one that the device
is not from, and by no other notice: not when its seat goes away, and not when others come and go
(`device_treated`).
-/

namespace VideoOutput

open Wire

/-- The request that ends a device. -/
def releaseOf (device : Object) : Request := ⟨device, .release, []⟩

/-- What the client is told of a seat. -/
inductive SeatNotice where
  | offered (seat : Seat)
  | gained (seat : Seat) (kind : DeviceKind)
  | lost (seat : Seat) (kind : DeviceKind)
  | withdrawn (seat : Object)

namespace Client

variable {c d : Client} {kind : DeviceKind} {device : Object} {notice : SeatNotice}

def heed (c : Client) : SeatNotice → Client
  | .offered seat => { c with seats := c.seats.add seat }
  | .gained seat kind => c.changeCapability seat kind true
  | .lost seat kind => c.changeCapability seat kind false
  | .withdrawn seat => { c with seats := c.seats.remove seat }

def heedAll (c : Client) (notices : List SeatNotice) : Client := notices.foldl heed c

/-! ## Events about seats -/

theorem announced_seat {global : Global} (h : global.interface = .seat) : c.announced global
    = (c.issuing (bindSeat global)).2.heed (.offered (c.issuing (bindSeat global)).1) := by
  unfold announced
  rw [h]
  rfl

theorem withdrawn_seat {global : Nat} {seat : Seat}
    (houtputs : c.outputs.tracked.find? (·.global = global) = none)
    (h : c.seats.seats.find? (fun s => s.global = global && s.offered) = some seat) :
    c.withdrawn global = c.heed (.withdrawn seat.object) := by
  unfold withdrawn
  rw [houtputs]
  dsimp only
  rw [h]
  rfl

/-- The notices of what changes among a seat's capabilities. -/
def capabilityNotices (seat : Seat) (capabilities : List DeviceKind) : List SeatNotice :=
  (DeviceKind.all.filter fun kind =>
    capabilities.contains kind != seat.capabilities.contains kind).map fun kind =>
      if capabilities.contains kind then .gained seat kind else .lost seat kind

theorem setCapabilities_eq {target : Object} {seat : Seat} (capabilities : List DeviceKind)
    (h : c.seats.seat? target = some seat) : c.setCapabilities target capabilities
      = heedAll { c with seats := c.seats.updateSeat seat.object ({ · with capabilities }) }
        (capabilityNotices seat capabilities) := by
  have hheed (c : Client) (kind : DeviceKind) :
      c.changeCapability seat kind (capabilities.contains kind)
        = c.heed (if capabilities.contains kind then .gained seat kind else .lost seat kind) := by
    cases capabilities.contains kind <;> rfl
  unfold setCapabilities heedAll capabilityNotices
  rw [h, List.foldl_map]
  simp only [hheed]

/-! ## Notices -/

theorem heed_stays (c : Client) (notice : SeatNotice) : c.Stays (c.heed notice) := by
  cases notice with
  | offered seat => exact .of_stage rfl rfl
  | withdrawn seat => exact .of_stage rfl rfl
  | gained seat kind => exact c.stays_changeCapability seat kind true
  | lost seat kind => exact c.stays_changeCapability seat kind false

theorem heedAll_stays (c : Client) (notices : List SeatNotice) : c.Stays (c.heedAll notices) :=
  rel_foldl heed_stays notices c

theorem heed_lost_of_none (seat : Seat) (h : c.seats.device? kind = none) :
    c.heed (.lost seat kind) = c := by
  simp [heed, changeCapability, Seats.lose_of_none h]

theorem heed_lost_of_some (seat : Seat) (h : c.seats.device? kind = some device) :
    c.heed (.lost seat kind) = { c with
      seats := c.seats.setDevice none kind
      log := c.log.issue (releaseOf device)
      window := if kind = .keyboard then c.window.keyboardFocus false else c.window } := by
  rw [releaseOf, heed, changeCapability, Seats.lose_of_some h]
  cases kind <;> rfl

theorem heed_window (c : Client) (notice : SeatNotice) : (c.heed notice).window = c.window
    ∨ (c.heed notice).window = c.window.keyboardFocus false := by
  cases notice with
  | offered seat => exact .inl rfl
  | withdrawn seat => exact .inl rfl
  | gained seat kind => exact .inl rfl
  | lost seat kind =>
    rcases h : c.seats.device? kind with _ | device
    · rw [heed_lost_of_none seat h]
      exact .inl rfl
    · rw [heed_lost_of_some seat h]
      by_cases hkind : kind = .keyboard
      · exact .inr (if_pos hkind)
      · exact .inl (if_neg hkind)

theorem heedAll_unfocused : ∀ (notices : List SeatNotice) {c : Client},
    c.window.keyboardFocus false = c.window → (c.heedAll notices).window = c.window
  | [], _, _ => rfl
  | notice :: notices, c, h => by
    have hhere : (c.heed notice).window = c.window := (c.heed_window notice).elim id (·.trans h)
    have hthen : (c.heed notice).window.keyboardFocus false = (c.heed notice).window := by
      rwa [hhere]
    exact (heedAll_unfocused notices hthen).trans hhere

/-- A notice of another kind than the loss of the capability leaves the device where it is, and if
it is the keyboard, the window as it is. -/
theorem heed_keeps (htyped : c.seats.Typed) (hdevice : c.seats.device? kind = some device)
    (hkept : ∀ seat, notice ≠ .lost seat kind) :
    (c.heed notice).seats.device? kind = some device
      ∧ (kind = .keyboard → (c.heed notice).window = c.window)
      ∧ ∃ rest, (c.heed notice).log.issued = c.log.issued ++ rest ∧ releaseOf device ∉ rest := by
  cases notice with
  | offered seat => exact ⟨hdevice, fun _ => rfl, [], by simp [heed], List.not_mem_nil⟩
  | withdrawn seat => exact ⟨hdevice, fun _ => rfl, [], by simp [heed], List.not_mem_nil⟩
  | gained seat other =>
    have hseats : (c.heed (.gained seat other)).seats = (c.seats.gain c.log seat other).1 := rfl
    have hlog : (c.heed (.gained seat other)).log = (c.seats.gain c.log seat other).2 := rfl
    rw [hseats, hlog]
    rcases c.seats.gain_cases c.log seat other with ⟨hsame, hissued⟩ | ⟨hnone, hgiven, hissued⟩
    · rw [hsame, hissued]
      exact ⟨hdevice, fun _ => rfl, [], by simp, List.not_mem_nil⟩
    -- a device is given only where there was none, so it is of another kind
    · have hother : kind ≠ other := by
        rintro rfl
        cases hnone.symm.trans hdevice
      rw [hgiven, if_neg hother, hissued]
      refine ⟨hdevice, fun _ => rfl, _, rfl, fun hmem => ?_⟩
      have hverb := congrArg Request.verb (List.mem_singleton.1 hmem)
      cases other <;> cases hverb
  | lost seat other =>
    have hother : kind ≠ other := by
      rintro rfl
      exact hkept seat rfl
    rcases hlost : c.seats.device? other with _ | taken
    · rw [heed_lost_of_none seat hlost]
      exact ⟨hdevice, fun _ => rfl, [], by simp, List.not_mem_nil⟩
    · rw [heed_lost_of_some seat hlost]
      refine ⟨?_, ?_, [releaseOf taken], rfl, fun hmem => ?_⟩
      · rw [Seats.device?_setDevice, if_neg hother]
        exact hdevice
      · rintro rfl
        exact if_neg hother.symm
      · exact htyped.ne hother hdevice hlost
          (congrArg Request.target (List.mem_singleton.1 hmem))

/-- Some seat lost the capability. -/
def Loses (notices : List SeatNotice) (kind : DeviceKind) : Prop :=
  ∃ seat, .lost seat kind ∈ notices

/-- What notices do to a device that is there: it is released, and if it is the keyboard, taken
from the window, exactly if one of them is of the loss of its capability by some seat. -/
structure Treats (c : Client) (kind : DeviceKind) (device : Object) (notices : List SeatNotice) :
    Prop where
  released : ∃ rest, (c.heedAll notices).log.issued = c.log.issued ++ rest
    ∧ (releaseOf device ∈ rest ↔ Loses notices kind)
  kept : ¬ Loses notices kind → (c.heedAll notices).seats.device? kind = some device
  window : kind = .keyboard → ¬ Loses notices kind → (c.heedAll notices).window = c.window
  unfocused : kind = .keyboard → Loses notices kind →
    (c.heedAll notices).window = c.window.keyboardFocus false

theorem treats : ∀ (notices : List SeatNotice) {c : Client}, c.seats.Typed →
    c.seats.device? kind = some device → c.Treats kind device notices
  | [], c, _, hdevice => by
    have hloses : ¬ Loses [] kind := fun ⟨_, h⟩ => List.not_mem_nil h
    exact ⟨⟨[], (List.append_nil _).symm, iff_of_false List.not_mem_nil hloses⟩, fun _ => hdevice,
      fun _ _ => rfl, fun _ h => absurd h hloses⟩
  | notice :: notices, c, htyped, hdevice => by
    by_cases hlost : ∃ seat, notice = .lost seat kind
    · obtain ⟨seat, rfl⟩ := hlost
      have hloses : Loses (.lost seat kind :: notices) kind := ⟨seat, List.mem_cons_self⟩
      have hhere := heed_lost_of_some seat hdevice
      obtain ⟨more, hmore⟩ := (heedAll_stays (c.heed (.lost seat kind)) notices).grows.issued
      refine ⟨⟨releaseOf device :: more, ?_, iff_of_true List.mem_cons_self hloses⟩,
        absurd hloses, fun _ => absurd hloses, fun hkind _ => ?_⟩
      · refine hmore.symm.trans ?_
        rw [hhere]
        exact List.append_assoc ..
      · have hwindow : (c.heed (.lost seat kind)).window = c.window.keyboardFocus false := by
          rw [hhere]
          exact if_pos hkind
        -- no notice gives the window the keyboard back
        refine (heedAll_unfocused notices ?_).trans hwindow
        rw [hwindow, Window.keyboardFocus_idem]
    · obtain ⟨hkept, hwindow, here, hissued, hhere⟩ :=
        heed_keeps htyped hdevice fun seat h => hlost ⟨seat, h⟩
      have hloses : Loses (notice :: notices) kind ↔ Loses notices kind :=
        exists_congr fun seat => List.mem_cons.trans (or_iff_right fun h => hlost ⟨seat, h.symm⟩)
      obtain ⟨⟨rest, hrest, hreleased⟩, hkeeps, hsame, hunfocused⟩ :=
        treats notices ((c.heed_stays notice).typed htyped) hkept
      rw [← hloses] at hreleased hkeeps hsame hunfocused
      refine ⟨⟨here ++ rest, ?_, List.mem_append.trans ((or_iff_right hhere).trans hreleased)⟩,
        hkeeps, fun hkind h => (hsame hkind h).trans (hwindow hkind), fun hkind h => ?_⟩
      · rw [← List.append_assoc, ← hissued]
        exact hrest
      · rw [← hwindow hkind]
        exact hunfocused hkind h

theorem setUp_devices (globals : List Global) (s : Settings) :
    Answers (fun c _ => ∀ kind, c.seats.device? kind = none) (setUp globals s) := by
  unfold setUp
  iterate 8 refine .bind fun _ => ?_
  dsimp only
  split_ifs
  all_goals
    iterate 3 refine .bind fun _ => ?_
    exact .pure fun _ kind => by cases kind <;> rfl

theorem new_typed {globals : List Global} {s : Settings} (h : Client.new globals s = .ok c) :
    c.seats.Typed := by
  have hnone : ∀ kind, c.seats.device? kind = none := new_answers (setUp_devices globals s) h
  intro kind device hdevice
  cases (hnone kind).symm.trans hdevice

/-- In whatever state a client is, notices of seats take its device away exactly if by one of them
some seat lost the capability, be it the seat that the device is from or another. -/
theorem device_treated {globals : List Global} {s : Settings} {turns : List Turn}
    (notices : List SeatNotice) (hnew : Client.new globals s = .ok c) (hlives : c.Lives turns d)
    (hdevice : d.seats.device? kind = some device) : d.Treats kind device notices :=
  treats notices (hlives.grows.typed (new_typed hnew)) hdevice

end Client

namespace Exchange

open Client

/-- The compositor offers two seats. -/
def twoSeats : List Global := silentGlobals ++ [⟨7, .seat, 7⟩, ⟨8, .seat, 7⟩]

/-- The first seat has a keyboard. -/
def typing (c : Client) : Except ArithmeticFault Unit × Client :=
  (live [.react ⟨⟨.seat, 1⟩, .capabilities 2⟩]).run.run c

/-- The first seat goes away, and the second one loses a pointer. -/
def partingNotices : List SeatNotice :=
  [.withdrawn ⟨.seat, 1⟩, .lost ⟨⟨.seat, 2⟩, 8, 7, true, [.pointer]⟩ .pointer]

theorem device_treated_parting : ∃ c, Client.new twoSeats {} = .ok c ∧ (typing c).1 = .ok ()
    ∧ (typing c).2.seats.keyboard = some ⟨.keyboard, 1⟩
    ∧ ((typing c).2.heedAll partingNotices).seats.keyboard = some ⟨.keyboard, 1⟩ := by
  obtain ⟨c, hnew, htyping, hdevice⟩ :
      ∃ c, Client.new twoSeats {} = .ok c ∧ (typing c).1 = .ok ()
      ∧ (typing c).2.seats.keyboard = some ⟨.keyboard, 1⟩ := by
    decide +kernel
  have hlives : c.Lives [.react ⟨⟨.seat, 1⟩, .capabilities 2⟩] (typing c).2 := Prod.ext htyping rfl
  have htreated : (typing c).2.Treats .keyboard ⟨.keyboard, 1⟩ partingNotices :=
    device_treated partingNotices hnew hlives hdevice
  exact ⟨c, hnew, htyping, hdevice, htreated.kept (by simp [Loses, partingNotices])⟩

/-- The surface has the keyboard of the first seat, and the second seat has one as well. -/
def typingSteps : List (Step Unit) :=
  [.call 0 (.reconfig 640 360),
    .link (·.deliver [⟨⟨.seat, 1⟩, .capabilities 2⟩, ⟨⟨.seat, 2⟩, .capabilities 2⟩,
      ⟨⟨.toplevel, 1⟩, .toplevelConfigure 640 360 [4, 0, 0, 0]⟩,
      ⟨⟨.shellSurface, 1⟩, .surfaceConfigure 1⟩,
      ⟨⟨.keyboard, 1⟩, .keyboardEntered ⟨.surface, 1⟩⟩]),
    .call 0 .check]

/-- The second seat loses its keyboard. -/
def unpluggedSteps : List (Step Unit) :=
  [.link (·.deliver [⟨⟨.seat, 2⟩, .capabilities 0⟩]), .call 0 .check]

/-- The first seat has its keyboard still, but that is released and the window unfocused when the
second seat loses its own. -/
theorem exists_foreign_release : ∃ c, Client.new twoSeats {} = .ok c ∧ (opened c).1 = .ok ()
    ∧ ∃ y, run silent (opened c).2 typingSteps = .ok y
    ∧ y.client.seats.keyboard = some ⟨.keyboard, 1⟩ ∧ y.client.window.focused = true
    ∧ ∃ z, run silent y unpluggedSteps = .ok z
      ∧ z.client.seats.seats.head? = some ⟨⟨.seat, 1⟩, 7, 7, true, [.keyboard]⟩
      ∧ releaseOf ⟨.keyboard, 1⟩ ∈ z.client.log.issued ∧ z.client.seats.keyboard = none
      ∧ z.client.window.focused = false := by
  decide +kernel

end Exchange

end VideoOutput
