import ConsumerCheck.Path.Basic

/-!
# Relative paths

`Path.relativeTo base p` leads from the directory `base` to `p`, and is `relative_path` over `diff_paths`: the
components that both begin with are left out, each further component of `base` is undone by one `..`, and the
rest of `p` follows. There is no such path where `base` climbs above what both share, and none from an
absolute `base` to a relative path; the answer is then `p` itself.
-/

namespace ConsumerCheck.Path

/-- The components that lead from `base` to `target`. `shared` says that so far both are equal. -/
def climb : Bool → List Component → List Component → Option (List Component)
  | _, target, [] => some target
  | _, [], _ :: base => (climb false [] base).map (.parent :: ·)
  | shared, t :: target, b :: base =>
    if shared && t == b then climb true target base
    else
      match b with
      | .here => (climb false target base).map (t :: ·)
      | .parent => none
      | _ => some (.parent :: base.map (fun _ => .parent) ++ t :: target)

/-- The path that leads from `base` to `p`. -/
def relativeTo (base p : Path) : Path :=
  if p.isAbsolute = base.isAbsolute then
    match climb true p.components base.components with
    | some cs => ofComponents cs
    | none => p
  else p

end ConsumerCheck.Path
