/-
# Pass.Trace -- show every message

The trace pass puts every message on its screen and lets it through.  Its arguments
restrict it to what one peer says; both at once would leave nothing to show and are
refused.
-/
import WaylandProxy.Object.Describe
import WaylandProxy.Pass.Basic

namespace WaylandProxy

set_option autoImplicit false

structure Trace where
  screen : Screen
  onlyServer : Bool
  onlyClient : Bool
  deriving DecidableEq, Repr

namespace Trace

def create (screen : Screen) : Trace :=
  ⟨screen, false, false⟩

inductive Refusal where
  | unknown (argument : String)
  | exclusive
  deriving DecidableEq, Repr

def Refusal.text : Refusal → String
  | .unknown argument => "trace: unknown argument " ++ argument
  | .exclusive => "trace: server and client are mutually exclusive"

def withArgument (t : Trace) (argument : String) : Except Refusal Trace :=
  if argument = "server" then .ok { t with onlyServer := true }
  else if argument = "client" then .ok { t with onlyClient := true }
  else .error (.unknown argument)

def configure (t : Trace) (args : List String) : Except Refusal Trace := do
  let t ← args.foldlM withArgument t
  if t.onlyServer && t.onlyClient then .error .exclusive else .ok t

def observe (hidden : Bool) (ctx : Context) (t : Transit) (p : Trace) : Handled Trace :=
  if hidden then ⟨p, t, .proceed⟩
  else
    let line := t.message.describe (ctx.objects.resolve t.message)
    ⟨p, { t with world := p.screen.put line t.world }, .proceed⟩

instance : Pass Trace where
  name _ := "trace"
  usage _ := "trace [server|client]: print every message (optionally one direction only)"
  pinned _ := false
  init _ args w p := ((p.configure args).mapError fun r => .configuration r.text, w)
  onEvent ctx t p := observe p.onlyClient ctx t p
  onRequest ctx t p := observe p.onlyServer ctx t p
  idle _ i p := (p, i)
  finalize w p := (p, w)

end Trace

end WaylandProxy
