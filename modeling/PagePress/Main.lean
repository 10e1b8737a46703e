import PagePress.Command.Run

/-!
# The program

Carries out one maintenance command on a store that is empty at the start. Commands show no times,
so any clock that moves on will do.
-/

namespace PagePress

/-- An identifier of random bits, with the marks of its version and variant. -/
def freshUuid : IO Uuid := do
  let bytes ← IO.getRandomBytes 16
  let bits := bytes.toList.foldl (fun n b => 256 * n + b.toNat) 0
  let variant := (bits % 0x4000000000000000) + 0x8000000000000000
  let version := (bits >>> 62) % 0x1000 + 0x4000
  let rest := (bits >>> 74) % 0x1000000000000
  return ⟨rest <<< 80 + version <<< 64 + variant⟩

def currentTurn : IO Turn := do
  return {
    now := (← IO.monoNanosNow) / 1000
    customerId := ← freshUuid
    templateId := ← freshUuid
    pageId := ← freshUuid }

def usage : String :=
  "usage: create-customer NAME EMAIL | seed-demo [--slug SLUG] [--email EMAIL] | render SLUG\n"

def deliver (report : Report) : IO UInt32 := do
  IO.print report.output
  IO.eprint report.errors
  if report.exitCode = 2 then IO.eprint usage
  if report.failure.isSome then IO.eprintln "The command failed unexpectedly."
  return UInt32.ofNat report.exitCode

end PagePress

def main (arguments : List String) : IO UInt32 := do
  let (report, _) := PagePress.Command.runLine {} (← PagePress.currentTurn) arguments
  PagePress.deliver report
