import VideoOutput.Format.FourCc

/-!
# Hardware frames

A decoded frame is a surface of the video acceleration display, or a layout of shared memory: the
objects that hold it, each with a descriptor and a modifier, and layers of planes within them.
-/

namespace VideoOutput

/-- The number of an open descriptor. -/
abbrev Descriptor := Nat

structure FrameObject where
  descriptor : Descriptor
  modifier : UInt64
  deriving DecidableEq, Repr

structure FramePlane where
  object : Nat
  offset : Nat
  pitch : Nat
  deriving DecidableEq, Repr

structure FrameLayer where
  format : FourCc
  planes : List FramePlane
  deriving DecidableEq, Repr

structure FrameLayout where
  objects : List FrameObject
  layers : List FrameLayer
  deriving DecidableEq, Repr

/-- The planes of all layers, in order. -/
def FrameLayout.planes (l : FrameLayout) : List FramePlane := l.layers.flatMap FrameLayer.planes

inductive FramePayload where
  | surface (id : Nat)
  | layout (layout : FrameLayout)
  deriving DecidableEq, Repr

/-- The kinds of image a decoder hands over. -/
inductive ImageFormat where
  | surface
  | layout
  deriving DecidableEq, Repr

namespace ImageFormat

def name : ImageFormat → String
  | surface => "Vaapi"
  | layout => "DrmPrime"

/-- Hardware frames, and so all kinds, can be shown. -/
def isShown : ImageFormat → Bool
  | surface | layout => true

end ImageFormat

structure VideoFrame where
  width : Nat
  height : Nat
  payload : FramePayload
  deriving DecidableEq, Repr

def VideoFrame.imageFormat (f : VideoFrame) : ImageFormat :=
  match f.payload with
  | .surface _ => .surface
  | .layout _ => .layout

/-- What tells one frame of a decoder from another: the surface, or the descriptor of the layout's
first object. -/
inductive FrameIdentity where
  | surface (id : Nat)
  | descriptor (number : Descriptor)
  deriving DecidableEq, Repr

/-- The number that is compared. Surfaces and descriptors share the numbers, so it tells apart only
the frames of one decoder. -/
def FrameIdentity.key : FrameIdentity → Nat
  | surface id => id
  | descriptor number => number

/-- A plane as the compositor is told of it. -/
structure BufferPlane where
  object : Nat
  offset : Nat
  stride : Nat
  modifier : UInt64
  deriving DecidableEq, Repr

/-- What a compositor buffer is made of. -/
structure BufferDescription where
  format : FourCc
  width : Nat
  height : Nat
  objects : List Descriptor
  planes : List BufferPlane
  deriving DecidableEq, Repr

/-- The modifier of the first plane, which the catalog is asked about. -/
def BufferDescription.modifier? (d : BufferDescription) : Option UInt64 :=
  d.planes.head?.map BufferPlane.modifier

end VideoOutput
