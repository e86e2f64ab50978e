/-
# Input.Source -- the sources a fuzz pass can have

Synthesized input comes from a script or from random draws, as the arguments of the pass
say.  Loading a script reports the lines that were skipped and warns when nothing is left.

A fuzz pass needs of its source only that it yields gestures and that options say how to
load it (`LoadSource`), so what holds of the pass holds for any such source.
-/
import WaylandProxy.Input.Options
import WaylandProxy.Input.Procedural
import WaylandProxy.Input.Script
import WaylandProxy.Random.ChaCha
import WaylandProxy.Storage

namespace WaylandProxy

set_option autoImplicit false

/-- Sources that the options of a fuzz pass can ask for. -/
class LoadSource (σ : Type) where
  /-- The source that options ask for, or why there is none. -/
  load : Storage → Options → World → Except Fault σ × World

inductive Source where
  | script (s : Script)
  | procedural (p : Procedural ChaCha)

namespace Source

instance : EventSource Source where
  current
    | .script s => let (event, s) := EventSource.current s; (event, .script s)
    | .procedural p => let (event, p) := EventSource.current p; (event, .procedural p)
  advance
    | .script s => .script (EventSource.advance s)
    | .procedural p => .procedural (EventSource.advance p)

def loadScript (storage : Storage) (path : String) (w : World) : Except Fault Source × World :=
  match storage.readText path with
  | .error reason =>
    (.error (.configuration ("fuzz: cannot read script " ++ path ++ ": " ++ reason)), w)
  | .ok text =>
    let (loaded, w) := Script.load text w
    let w :=
      if loaded.remaining = 0 then
        w.log .warn .fuzz "script has no events" [("script", .plain path)]
      else w
    (.ok (.script loaded),
      w.log .info .fuzz "replaying script"
        [("script", .plain path), ("events", .number loaded.remaining)])

def load (storage : Storage) (o : Options) (w : World) : Except Fault Source × World :=
  match o.mode with
  | .seed seed =>
    (.ok (.procedural (Procedural.start (ChaCha.ofSeed seed) o.delayMin o.delayMax)),
      w.log .info .fuzz "procedural input" [("seed", .plain (toString seed))])
  | .script path => loadScript storage path w

instance : LoadSource Source :=
  ⟨load⟩

end Source

end WaylandProxy
