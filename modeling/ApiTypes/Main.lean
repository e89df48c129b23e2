import ApiTypes.Program

/-!
# The command

The program over the files of the system. The level of its log is asked for by the variable
`RUST_LOG`.

## Main definitions

* `main`
-/

namespace ApiTypes

/-- Whether an action succeeds. -/
def succeeds (action : IO Unit) : IO Bool := do
  try
    action
    return true
  catch _ => return false

instance : FileAccess IO where
  read path := do
    try return some (← IO.FS.readBinFile path).toList
    catch _ => return none
  createDirectories path := succeeds (IO.FS.createDirAll path)
  write path text := succeeds (IO.FS.writeFile path text)

end ApiTypes

/-- Runs the program and shows its outcome. -/
def main (arguments : List String) : IO UInt32 := do
  let outcome ← ApiTypes.Program.run (← IO.getEnv "RUST_LOG") arguments
  IO.print outcome.output
  outcome.log.forM IO.eprintln
  outcome.error.forM IO.eprintln
  return outcome.exitCode.toUInt32
