import Backtrack.Engine.Match

/-!
One instruction.  Executing an instruction may have to wait for input, and it may
fail, which ends the run.
-/

namespace Backtrack

namespace Engine

/-- Execution of an instruction: it may wait and it may fail. -/
abbrev Exec (ω : Type) := ExceptT Error (Job ω)

variable {ω : Type}

def look : Exec ω Buffer := ExceptT.lift Job.look

def prime (c : Cursor) : Exec ω Buffer := ExceptT.lift c.prime

def liftSource {α : Type} : Except SourceError α → Except Error α
  | .ok a => .ok a
  | .error e => .error (.source e)

def advanceCursor (e : Engine) (n : Nat) : Exec ω Engine := do
  let moved ← ExceptT.lift (e.scope.cursor.advance n)
  let cursor ← ExceptT.mk (pure (liftSource moved))
  return e.setCursor cursor

def build {α : Type} (e : Engine) (change : Builder → Builder × Except Error α) :
    Exec ω (α × Engine) :=
  match change e.builder with
  | (builder, .ok a) => return (a, { e with builder })
  | (_, .error error) => throw error

def updateRegions (e : Engine) (change : Regions → Regions × Except Error Unit) :
    Exec ω Engine :=
  match change e.scope.regions with
  | (regions, .ok ()) => return e.setRegions regions
  | (_, .error error) => throw error

/-! ## Terminals -/

/-- Only a typed node has an effect on the regions. -/
def advanceOpen (e : Engine) (tag : OpenTag) : Exec ω (Emitted × Engine) := do
  let (output, e) ← e.build (·.advance (.openNode tag))
  let e ← if tag.nodeType.isSome then e.updateRegions (·.enter tag) else pure e
  match tag.language with
  | none => return (output, e)
  | some language => return (output, e.modifyScope fun s => { s with language := some language })

/-- Closing the root must leave nothing behind. -/
def finalize (e : Engine) : Exec ω Unit := do
  let b ← prime e.scope.cursor
  if !e.scope.cursor.isDone b then throw .inputNotConsumed
  if !e.scope.regions.balanced.isEmpty then
    throw (.unbalancedAtEnd e.scope.regions.balanced.length)

def advanceClose (e : Engine) : Exec ω (Emitted × Engine) := do
  let closing := e.builder.node?.map (·.tag)
  let (output, e) ← e.build (·.advance .close)
  if e.builder.path.isEmpty then
    e.finalize
    return (output, e)
  else
    match closing.filter (·.nodeType.isSome) with
    | none => return (output, e)
    | some tag =>
      let e ← e.updateRegions (·.leave tag)
      return (output, e)

def advanceLiteral (config : Config) (e : Engine) (text : String) :
    Exec ω (Emitted × Engine) := do
  match ← ExceptT.lift (matchAt config e.scope (.literal text)) with
  | none => throw (.literalFailed text)
  | some range =>
    let e ← e.advanceCursor range.length
    e.build (·.advance (.literal text))

/-- A gap in the input, or the unit held for a shifted value. -/
def advanceGap (e : Engine) : Exec ω (Emitted × Engine) := do
  let cursor := e.scope.cursor
  let b ← prime cursor
  if (cursor.value b).isSome || cursor.isDone b then throw .gapFailed
  let e ←
    if cursor.holding then
      e.setCursor <$> ExceptT.mk (pure (liftSource cursor.unshift))
    else e.advanceCursor 1
  e.build (·.advance .gap)

def advanceShift (e : Engine) : Exec ω (Emitted × Engine) := do
  let cursor ← ExceptT.mk (pure (liftSource e.scope.cursor.shift))
  (e.setCursor cursor).build (·.advance .shift)

def advance (config : Config) (e : Engine) : Terminal → Exec ω (Emitted × Engine)
  | .openNode tag => e.advanceOpen tag
  | .close => e.advanceClose
  | .literal text => advanceLiteral config e text
  | .gap => e.advanceGap
  | .shift => e.advanceShift
  | t => e.build (·.advance t)

/-! ## Frames -/

def branch (config : Config) (e : Engine) : Exec ω (StateView × Engine) := do
  let depth := e.frames.depth + 1
  if depth > config.maxBranchDepth then
    throw (.branchLimitExceeded depth config.maxBranchDepth)
  let hadNode := e.builder.node?.isSome
  let ((), e) ← e.build Builder.branch
  let (frames, frame) ← ExceptT.mk (pure (e.frames.branch e.frame))
  let e := { e with frames, frame }
  let e := if hadNode then e else e.modifyScope fun s => { s with language := none }
  return (e.view (← look), e)

def accept (e : Engine) : Exec ω (StateView × Engine) := do
  if e.frame = .root then throw .acceptedRoot
  let ((), e) ← e.build Builder.accept
  let (frames, frame) ← ExceptT.mk (pure (e.frames.accept e.frame))
  let e := { e with frames, frame }
  return (e.view (← look), e)

/-! ## Repair

When a branch opened a node under a reference and is rejected, the node around
it would never learn that the slot exists.  The slot is bound to null instead,
so that every node of one production has the same slots. -/

/-- The reference that the rejected path went through from the node that is open
again, if it went deeper at all.  After a shift the path no longer goes through
that node. -/
def repairReference? (builder : Builder) (rejected : Path) : Option Reference :=
  let path := builder.path
  let depth := path.depth
  if path.isEmpty || rejected.depth ≤ depth then none
  else if builder.node?.isSome &&
      (rejected.at? depth).map (·.id) != (path.at? depth).map (·.id) then none
  else
    let afterReference := (builder.last?.bind Terminal.reference?).isSome
    let offset := if afterReference then 0 else 1
    (rejected.at? (min (depth + offset) rejected.depth)).bind (·.reference)

/-- Whether the slot has to be bound to null: nothing is bound to it, it is not
waiting for a value, and the node takes part in repairs. -/
def needsRepair (builder : Builder) (r : Reference) : Bool :=
  match builder.node?.or builder.parentNode? with
  | none => false
  | some node =>
    !node.hasProperty r.name &&
      !(builder.last?.bind Terminal.reference?).any (fun last => last.name == r.name) &&
      !node.tag.flags.exemptFromRepair

def repair (e : Engine) (rejected : Path) : Exec ω Engine :=
  match (repairReference? e.builder rejected).filter (needsRepair e.builder) with
  | none => return e
  | some r => do
    let (_, e) ← e.build (·.advance (.reference r))
    let (_, e) ← e.build (·.advance .null)
    return e

def reject (e : Engine) : Exec ω (StateView × Engine) := do
  if e.frame = .root then throw .rejectedRoot
  let rejected := e.builder.path
  let ((), e) ← e.build Builder.reject
  let (frames, frame, _) ← ExceptT.mk (pure (e.frames.reject e.frame))
  let e ← repair { e with frames, frame } rejected
  return (e.view (← look), e)

/-! ## Dispatch -/

def dispatch (config : Config) (e : Engine) : Instruction → Exec ω (Answer × Engine)
  | .advance t => do
    let (output, e) ← advance config e t
    return (.output output, e)
  | .test p => do
    match ← ExceptT.lift (matchAt config e.scope p) with
    | some range => return (.tokens range, e)
    | none => return (.noMatch, e)
  | .branch => do
    let (view, e) ← branch config e
    return (.state view, e)
  | .accept => do
    let (view, e) ← e.accept
    return (.state view, e)
  | .reject => do
    let (view, e) ← e.reject
    return (.state view, e)
  | .write text => do
    let (output, e) ← e.build (·.write text)
    return (.output output, e)
  | .bindAttribute key value => do
    let (output, e) ← e.build (·.bindAttribute key value)
    return (.output output, e)
  | .getState => do
    return (.state (e.view (← look)), e)
  | .unknown verb => throw (.unknownInstruction verb)

def step (config : Config) (e : Engine) (i : Instruction) : Exec ω (Answer × Engine) := do
  let executed := e.executed + 1
  if executed > config.maxInstructions then
    throw (.instructionLimitExceeded executed config.maxInstructions)
  dispatch config { e with executed } i

end Engine

end Backtrack
