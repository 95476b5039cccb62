/-!
# Protocol objects

The interfaces of the protocols in use, and the objects of a connection. An object is known by its
interface and by its place among the objects of that interface, counted from one in the order the
client made them.
-/

namespace VideoOutput

namespace Wire

inductive Interface where
  | registry
  | compositor
  | surface
  | region
  | callback
  | shm
  | shmPool
  | buffer
  | subcompositor
  | subsurface
  | output
  | seat
  | pointer
  | keyboard
  | touch
  | shell
  | shellSurface
  | toplevel
  | viewporter
  | viewport
  | presentation
  | presentationFeedback
  | decorationManager
  | decoration
  | inhibitManager
  | inhibitor
  | dmabuf
  | bufferParams
  | formatFeedback
  deriving DecidableEq, Repr

def Interface.name : Interface → String
  | registry => "wl_registry"
  | compositor => "wl_compositor"
  | surface => "wl_surface"
  | region => "wl_region"
  | callback => "wl_callback"
  | shm => "wl_shm"
  | shmPool => "wl_shm_pool"
  | buffer => "wl_buffer"
  | subcompositor => "wl_subcompositor"
  | subsurface => "wl_subsurface"
  | output => "wl_output"
  | seat => "wl_seat"
  | pointer => "wl_pointer"
  | keyboard => "wl_keyboard"
  | touch => "wl_touch"
  | shell => "xdg_wm_base"
  | shellSurface => "xdg_surface"
  | toplevel => "xdg_toplevel"
  | viewporter => "wp_viewporter"
  | viewport => "wp_viewport"
  | presentation => "wp_presentation"
  | presentationFeedback => "wp_presentation_feedback"
  | decorationManager => "zxdg_decoration_manager_v1"
  | decoration => "zxdg_toplevel_decoration_v1"
  | inhibitManager => "zwp_idle_inhibit_manager_v1"
  | inhibitor => "zwp_idle_inhibitor_v1"
  | dmabuf => "zwp_linux_dmabuf_v1"
  | bufferParams => "zwp_linux_buffer_params_v1"
  | formatFeedback => "zwp_linux_dmabuf_feedback_v1"

structure Object where
  interface : Interface
  number : Nat
  deriving DecidableEq, Repr

namespace Object

/-- The registry, which there is one of from the start. -/
def registry : Object := ⟨.registry, 1⟩

def name (o : Object) : String :=
  match o.interface with
  | .registry => Interface.registry.name
  | interface => s!"{interface.name}#{o.number}"

end Object

/-- What the compositor offers to bind: a number of its own, an interface and its version. -/
structure Global where
  number : Nat
  interface : Interface
  version : Nat
  deriving DecidableEq, Repr

end Wire

end VideoOutput
