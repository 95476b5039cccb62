import VideoOutput.Client.Life
import VideoOutput.Proofs.Geometry.Letterbox
import VideoOutput.Proofs.Wire.Requests

/-!
# What a layout asks for

A window that shows something has a layout for every size of the video (`of?_eq`): the picture lies
in the middle, and the main surface is scaled to twice the near margin and the picture between.
`applyLayout_issued` lists the requests that give it to the surfaces. The opaque region is always
the window; the main surface falls short of it by a unit where the margins differ
(`relayout_mainSize`).
-/

namespace VideoOutput

open Wire

namespace Layout

/-- The size of the picture: the window, or what the aspect leaves of it. -/
def pictureSize (keepAspect : Bool) (video window : Size) : Size :=
  if keepAspect then video.fitted window else window

/-- The layout of a window with a picture of the given size in its middle. -/
def around (window picture : Size) : Layout where
  window
  video := (Rect.ofSize window.1 window.2).centred picture
  videoSize := picture
  mainSize := (window.1 - (window.1 - picture.1) % 2, window.2 - (window.2 - picture.2) % 2)

theorem pictureSize_le (keepAspect : Bool) (video : Size) {window : Size} (h : window.Positive) :
    (0 ≤ (pictureSize keepAspect video window).1
        ∧ (pictureSize keepAspect video window).1 ≤ window.1)
      ∧ 0 ≤ (pictureSize keepAspect video window).2
        ∧ (pictureSize keepAspect video window).2 ≤ window.2 := by
  unfold pictureSize
  split_ifs
  · exact video.fitted_le h
  · exact ⟨⟨h.1.2.le, le_rfl⟩, h.2.2.le, le_rfl⟩

theorem place_eq {keepAspect : Bool} {video window : Size} (h : window.Positive)
    (hvideo : Word.int32.Holds video.1) (hvideo' : Word.int32.Holds video.2) :
    place keepAspect video window
      = .ok ((Rect.ofSize window.1 window.2).centred (pictureSize keepAspect video window)) := by
  have hzero : Word.int32.Holds 0 := by decide
  have hwindow : (Rect.ofSize window.1 window.2).Holds := ⟨hzero, hzero, h.1.1, h.2.1⟩
  have hsize : ((Rect.ofSize window.1 window.2).x1 - (Rect.ofSize window.1 window.2).x0,
      (Rect.ofSize window.1 window.2).y1 - (Rect.ofSize window.1 window.2).y0) = window := by
    simp [Rect.ofSize]
  have hfilled := Rect.centred_self (.ofSize window.1 window.2)
  have hletterboxed := letterbox_eq hwindow (by rwa [hsize]) hvideo hvideo'
  rw [hsize] at hfilled hletterboxed
  unfold place pictureSize
  split_ifs
  · exact hletterboxed
  · rw [hfilled]

theorem withMargins_eq {window picture : Int} (h : Word.int32.Holds window) (h0 : 0 ≤ picture)
    (hle : picture ≤ window) :
    withMargins ((window - picture) / 2) picture = .ok (window - (window - picture) % 2) := by
  have hw : window ≤ 2147483647 := h.2
  refine bind_eq_ok.2 ⟨_, Word.mul_ok (Word.int32_holds (by omega) (by omega)), ?_⟩
  rw [Word.add_ok (Word.int32_holds (by omega) (by omega))]
  congr 1
  omega

theorem of?_eq {geometry : Rect} {video : Size} (keepAspect : Bool)
    (hshown : geometry.isEmpty = .ok false) (hvideo : Word.int32.Holds video.1)
    (hvideo' : Word.int32.Holds video.2) :
    of? geometry video keepAspect = .ok (some (around
      (geometry.x1 - geometry.x0, geometry.y1 - geometry.y0)
      (pictureSize keepAspect video (geometry.x1 - geometry.x0, geometry.y1 - geometry.y0)))) := by
  have hsize : Size.Positive (geometry.x1 - geometry.x0, geometry.y1 - geometry.y0) :=
    Rect.isEmpty_eq_false.1 hshown
  obtain ⟨⟨hpicture0, hpicture⟩, hpicture0', hpicture'⟩ :=
    pictureSize_le keepAspect video hsize
  unfold of?
  refine bind_eq_ok.2 ⟨_, Rect.size_eq hsize.1.1 hsize.2.1, ?_⟩
  generalize (geometry.x1 - geometry.x0, geometry.y1 - geometry.y0) = window at *
  rw [if_neg (by have := hsize.1.2; have := hsize.2.2; omega)]
  refine bind_eq_ok.2 ⟨_, place_eq hsize hvideo hvideo', ?_⟩
  generalize pictureSize keepAspect video window = picture at *
  have hsides : ((Rect.ofSize window.1 window.2).centred picture).size = .ok picture := by
    have hwidth := Word.int32_holds hpicture0 (hpicture.trans hsize.1.1.2)
    have hheight := Word.int32_holds hpicture0' (hpicture'.trans hsize.2.1.2)
    rw [Rect.size_eq] <;> simp only [Rect.centred, add_sub_cancel_left] <;> assumption
  refine bind_eq_ok.2 ⟨_, hsides, ?_⟩
  have hmargin : ((Rect.ofSize window.1 window.2).centred picture).x0 = (window.1 - picture.1) / 2
      ∧ ((Rect.ofSize window.1 window.2).centred picture).y0 = (window.2 - picture.2) / 2 := by
    simp [Rect.centred, Rect.ofSize]
  rw [hmargin.1, hmargin.2]
  refine bind_eq_ok.2 ⟨_, withMargins_eq hsize.1.1 hpicture0 hpicture, ?_⟩
  exact bind_eq_ok.2 ⟨_, withMargins_eq hsize.2.1 hpicture0' hpicture', rfl⟩

/-- A window that shows something has a layout, if arithmetic finds one. -/
theorem of?_ne_none {geometry : Rect} {video : Size} {keepAspect : Bool}
    (hshown : geometry.isEmpty = .ok false) : of? geometry video keepAspect ≠ .ok none := by
  intro h
  obtain ⟨⟨hwidth, hwidth0⟩, hheight, hheight0⟩ := Rect.isEmpty_eq_false.1 hshown
  obtain ⟨window, hsize, h⟩ := bind_eq_ok.1 h
  cases (Rect.size_eq hwidth hheight).symm.trans hsize
  rw [if_neg (by dsimp only; omega)] at h
  obtain ⟨rect, -, h⟩ := bind_eq_ok.1 h
  obtain ⟨videoSize, -, h⟩ := bind_eq_ok.1 h
  obtain ⟨mainWidth, -, h⟩ := bind_eq_ok.1 h
  obtain ⟨mainHeight, -, h⟩ := bind_eq_ok.1 h
  cases h

end Layout

/-- The layout that the window calls for as it is. -/
def Window.dueLayout (w : Window) : Except ArithmeticFault (Option Layout) :=
  Layout.of? w.geometry w.videoSize w.options.keepAspect

namespace Client

variable {c : Client} {l : Layout}

/-- Scales what a viewport shows to a size. -/
def scaleRequest (viewport : Object) (size : Size) : Request :=
  ⟨viewport, .setDestination, [.int size.1, .int size.2]⟩

/-- The requests for the main surface: a region of the window's size that it covers, and its own
size. -/
def mainRequests (c : Client) (l : Layout) : List Request :=
  let region := c.log.fresh .region
  [⟨c.bindings.compositor, .createRegion, [.new region]⟩,
    ⟨region, .add, [.int 0, .int 0, .int l.window.1, .int l.window.2]⟩,
    ⟨c.surface, .setOpaqueRegion, [.object region]⟩,
    ⟨region, .destroy, []⟩]
  ++ c.viewport.toList.map (scaleRequest · l.mainSize)

/-- The requests for the surface of the video. -/
def videoRequests (l : Layout) (video : VideoSurface) : List Request :=
  (if 0 < l.videoSize.1 ∧ 0 < l.videoSize.2 then
    video.viewport.toList.map (scaleRequest · l.videoSize) else [])
  ++ [⟨video.subsurface, .setPosition, [.int l.video.x0, .int l.video.y0]⟩]

/-- The requests that give the surfaces a layout. -/
def layoutRequests (c : Client) (l : Layout) : List Request :=
  c.mainRequests l ++ c.video.toList.flatMap (videoRequests l) ++ [⟨c.surface, .commit, []⟩]

theorem applyLayout_log (c : Client) (l : Layout) :
    (c.applyLayout l).log = (c.layoutRequests l).foldl RequestLog.issue c.log := by
  unfold applyLayout layoutRequests mainRequests videoRequests
  by_cases hscaled : 0 < l.videoSize.1 ∧ 0 < l.videoSize.2
  · simp only [if_pos hscaled]
    rcases c.viewport with _ | viewport <;> rcases c.video with _ | ⟨_, _, _ | _⟩ <;> rfl
  · simp only [if_neg hscaled]
    rcases c.viewport with _ | viewport <;> rcases c.video with _ | ⟨_, _, _ | _⟩ <;> rfl

theorem applyLayout_issued (c : Client) (l : Layout) :
    (c.applyLayout l).log.issued = c.log.issued ++ c.layoutRequests l := by
  rw [applyLayout_log, RequestLog.foldl_issue]

theorem relayout_cases (c : Client) :
    (∃ fault, c.window.dueLayout = .error fault ∧ relayout.run c = (.error fault, c))
      ∨ (c.window.dueLayout = .ok none ∧ relayout.run c = (.ok (), c))
      ∨ ∃ l, c.window.dueLayout = .ok (some l) ∧ relayout.run c = (.ok (), c.applyLayout l) := by
  unfold relayout Window.dueLayout
  rw [run_get_bind]
  rcases Layout.of? c.window.geometry c.window.videoSize c.window.options.keepAspect
    with fault | _ | l
  · exact .inl ⟨fault, rfl, rfl⟩
  · exact .inr (.inl ⟨rfl, rfl⟩)
  · exact .inr (.inr ⟨l, rfl, rfl⟩)

/-- A window that shows something is laid out whatever its video; the opaque region is all of it.
The main surface is scaled to the window less a unit wherever the two margins of the picture differ:
to its size just where both pairs are equal, and to one that is not positive just where a side of
one unit has no room for the picture. -/
theorem relayout_mainSize (hshown : c.window.geometry.isEmpty = .ok false)
    (hvideo : Word.int32.Holds c.window.videoSize.1)
    (hvideo' : Word.int32.Holds c.window.videoSize.2) :
    ∃ l c', relayout.run c = (.ok (), c') ∧ c'.layout = some l
      ∧ c'.log.issued = c.log.issued ++ c.layoutRequests l
      ∧ l.window = (c.window.geometry.x1 - c.window.geometry.x0,
          c.window.geometry.y1 - c.window.geometry.y0)
      ∧ l.videoSize
          = Layout.pictureSize c.window.options.keepAspect c.window.videoSize l.window
      ∧ l.mainSize = (l.window.1 - (l.window.1 - l.videoSize.1) % 2,
          l.window.2 - (l.window.2 - l.videoSize.2) % 2)
      ∧ (l.mainSize = l.window ↔
          (l.window.1 - l.videoSize.1) % 2 = 0 ∧ (l.window.2 - l.videoSize.2) % 2 = 0)
      ∧ ((0 < l.mainSize.1 ∧ 0 < l.mainSize.2) ↔
          ¬ (l.window.1 = 1 ∧ l.videoSize.1 = 0) ∧ ¬ (l.window.2 = 1 ∧ l.videoSize.2 = 0)) := by
  have hsize : Size.Positive (c.window.geometry.x1 - c.window.geometry.x0,
    c.window.geometry.y1 - c.window.geometry.y0) := Rect.isEmpty_eq_false.1 hshown
  have hdue := Layout.of?_eq c.window.options.keepAspect hshown hvideo hvideo'
  have hpicture := Layout.pictureSize_le c.window.options.keepAspect c.window.videoSize hsize
  set l := Layout.around _ _
  have hmain : l.mainSize = (l.window.1 - (l.window.1 - l.videoSize.1) % 2,
    l.window.2 - (l.window.2 - l.videoSize.2) % 2) := rfl
  change (0 ≤ l.videoSize.1 ∧ l.videoSize.1 ≤ l.window.1)
    ∧ 0 ≤ l.videoSize.2 ∧ l.videoSize.2 ≤ l.window.2 at hpicture
  obtain ⟨⟨-, hwidth⟩, -, hheight⟩ : l.window.Positive := hsize
  refine ⟨l, c.applyLayout l, ?_, rfl, ?_, rfl, rfl, hmain, ?_, ?_⟩
  · rcases c.relayout_cases with ⟨fault, hcase, -⟩ | ⟨hcase, -⟩ | ⟨l', hcase, hrun⟩
    · cases hdue.symm.trans hcase
    · cases hdue.symm.trans hcase
    · cases hdue.symm.trans hcase
      exact hrun
  · exact c.applyLayout_issued l
  · rw [hmain, Prod.ext_iff]
    dsimp only
    omega
  · rw [hmain]
    dsimp only
    omega

/-- A compositor whose surfaces can be nested and scaled. -/
def scalingGlobals : List Global :=
  [⟨1, .compositor, 6⟩, ⟨2, .shm, 1⟩, ⟨3, .shell, 6⟩, ⟨4, .subcompositor, 1⟩, ⟨5, .viewporter, 1⟩]

/-- The window takes a video and is made fullscreen at a size of its own. -/
def goFullscreen (video window : Size) : Act Unit := do
  Act.window (·.reconfig video.1 video.2)
  let c ← get
  react ⟨c.toplevel, .toplevelConfigure window.1 window.2 [2, 0, 0, 0]⟩
  react ⟨c.shellSurface, .surfaceConfigure 1⟩

/-- What a viewport was told to scale to, in order. -/
def destinations (c : Client) (viewport : Object) : List (List Argument) :=
  (c.log.issued.filter fun r => r.target = viewport ∧ r.verb = .setDestination).map
    Request.arguments

/-- A tall video in a wide window: the margins are 656 units each. -/
theorem relayout_mainSize_pillarboxed : ∃ c, Client.new scalingGlobals {} = .ok c
    ∧ ∃ l c', relayout.run ((goFullscreen (1080, 1920) (1920, 1080)).run c).2 = (.ok (), c')
      ∧ c'.layout = some l ∧ l.video = ⟨656, 0, 1264, 1080⟩ ∧ l.mainSize = l.window
      ∧ c'.destinations ⟨.viewport, 1⟩ = [[.int 1920, .int 1080]] := by
  obtain ⟨c, hnew, ⟨hshown, hvideo, hvideo'⟩, hlaid⟩ : ∃ c, Client.new scalingGlobals {} = .ok c
      ∧ (((goFullscreen (1080, 1920) (1920, 1080)).run c).2.window.geometry.isEmpty = .ok false
        ∧ Word.int32.Holds ((goFullscreen (1080, 1920) (1920, 1080)).run c).2.window.videoSize.1
        ∧ Word.int32.Holds ((goFullscreen (1080, 1920) (1920, 1080)).run c).2.window.videoSize.2)
      ∧ (relayout.run ((goFullscreen (1080, 1920) (1920, 1080)).run c).2).2.layout
          = some ⟨(1920, 1080), ⟨656, 0, 1264, 1080⟩, (608, 1080), (1920, 1080)⟩
        ∧ (relayout.run ((goFullscreen (1080, 1920) (1920, 1080)).run c).2).2.destinations
          ⟨.viewport, 1⟩ = [[.int 1920, .int 1080]] := by
    decide +kernel
  obtain ⟨l, c', hrun, hlayout, -, -, -, -, hcovers, -⟩ := relayout_mainSize hshown hvideo hvideo'
  rw [hrun, hlayout] at hlaid
  obtain ⟨hl, hdestinations⟩ := hlaid
  cases hl
  exact ⟨c, hnew, _, c', hrun, hlayout, rfl, hcovers.2 (by decide), hdestinations⟩

/-- The margins of a wide video in a square window are 218 and 219 units, and the main surface is a
unit short of the window. In a window one unit high with no room for the picture it has no height,
which is no size a viewport can scale to. -/
theorem exists_mainSize_short : ∃ c, Client.new scalingGlobals {} = .ok c
    ∧ (((goFullscreen (1920, 1080) (1000, 1000)).run c).2.window.geometry = .ofSize 1000 1000
      ∧ (relayout.run ((goFullscreen (1920, 1080) (1000, 1000)).run c).2).2.destinations
          ⟨.viewport, 1⟩ = [[.int 1000, .int 999]])
    ∧ ((goFullscreen (1000, 1) (100, 1)).run c).2.window.geometry = .ofSize 100 1
      ∧ (relayout.run ((goFullscreen (1000, 1) (100, 1)).run c).2).2.destinations ⟨.viewport, 1⟩
        = [[.int 100, .int 0]] := by
  decide +kernel

end Client

end VideoOutput
