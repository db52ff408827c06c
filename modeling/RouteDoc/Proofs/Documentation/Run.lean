import RouteDoc.Documentation

/-!
# Runs of a documentation

* `Documentation.Call`: what a documentation is asked for.
* `Documentation.call`: the documentation after a call, whether it succeeds or not.
* `Documentation.run`: the documentation after several calls on one without routes.
-/

namespace RouteDoc

namespace Documentation

inductive Call where
  | addRoute (comment : String) (overrides : Dict String Supplied) (source : String)
  | addType (name : String)

/-- The documentation after a call, whether it succeeds or not. -/
def call (d : Documentation) : Call → Documentation
  | .addRoute comment overrides source => (d.addRoute comment overrides source).documentation
  | .addType name => (d.addType name).1

def run (c : Context) (settings : Settings) (calls : List Call) : Documentation :=
  calls.foldl call { context := c, settings := settings }

/-- What a documentation without routes has and each call keeps, it has after every run. -/
theorem run_induct {P : Documentation → Prop} {c : Context} {settings : Settings}
    {calls : List Call} (fresh : P { context := c, settings := settings })
    (call : ∀ d k, P d → P (d.call k)) : P (run c settings calls) :=
  List.foldlRecOn calls _ fresh fun d hd k _ => call d k hd

end Documentation

end RouteDoc
