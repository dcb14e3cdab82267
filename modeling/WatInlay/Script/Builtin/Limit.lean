/-
The builtin that shows and sets limits.
-/

import WatInlay.Script.Builtin.Option

namespace WatInlay.Script.Eval

/-- The lines about all resources, each with its title and the limit that `choose` takes. -/
def showLimits (limits : Limits) (choose : Limit → Nat) : Raw :=
  Resource.all.flatMap fun (r, _, title, _) =>
    title.toList ++ List.replicate (20 - title.length) ' ' ++ ' ' ::
      r.shown (choose (r.limit limits)) ++ ['\n']

/-- Sets limits of a resource to what a text gives. -/
def setLimit (r : Resource) (soft hard : Bool) (t : Raw) : Eval Unit := do
  let some n := r.ofText? t | die "bad number".toList
  let limits := (← get).limits
  let old := r.limit limits
  let new : Limit :=
    { soft := if soft then n else old.soft, hard := if hard then n else old.hard }
  match old.replacing new with
  | .ok limit => modify fun s => { s with limits := (r, limit) :: limits.filter (·.1 != r) }
  | .error e => die ("error setting limit (".toList ++ Raw.ofText e.description ++ [')'])

/-- `ulimit`. The last of the letters that name a resource counts, and the last of those
that say which of its limits is meant. -/
def ulimitBuiltin (args : List Raw) : Eval Nat := do
  let (options, args) ← takeOptions "HSatfdscmlpnvwr" args
  let letters := options.map (·.1)
  let side := (letters.filter fun c => c == 'H' || c == 'S').getLast?
  let choose (limit : Limit) : Nat := if side == some 'H' then limit.hard else limit.soft
  let r := ((letters.filterMap Resource.lettered?).getLast?).getD .fileSize
  let limits := (← get).limits
  match args with
  | [] =>
    print <|
      if letters.contains 'a' then showLimits limits choose
      else r.shown (choose (r.limit limits)) ++ ['\n']
  | t :: rest =>
    if letters.contains 'a' || !rest.isEmpty then die "too many arguments".toList
    setLimit r (side != some 'H') (side != some 'S') t
  return 0

end WatInlay.Script.Eval
