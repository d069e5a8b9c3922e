import Terradoc.Pattern.Basic

namespace Terradoc.Pattern

inductive Instruction where
  | set (chars : CharSet) (next : Nat)
  /-- Goes on at both places; the first is preferred. -/
  | split (first second : Nat)
  /-- Keeps the place in the text. -/
  | save (slot next : Nat)
  | look (condition : Look) (next : Nat)
  | accept
deriving Inhabited

abbrev Program := Array Instruction

namespace Program

/-- Adds an instruction; gives its place with the program. -/
def add (program : Program) (instruction : Instruction) : Nat × Program :=
  (program.size, program.push instruction)

/-- A split that prefers going on over leaving when it is greedy. -/
def fork (greedy : Bool) (inside outside : Nat) : Instruction :=
  if greedy then .split inside outside else .split outside inside

/-- Puts a body before a place so many times. -/
def times (body : Nat → Program → Nat × Program) : Nat → Nat → Program → Nat × Program
  | 0, next, program => (next, program)
  | count + 1, next, program =>
    let (next, program) := times body count next program
    body next program

/-- Up to so many bodies in a row, each of which may be left out with all after it. -/
def upTo (body : Nat → Program → Nat × Program) (greedy : Bool) (outside : Nat) :
    Nat → Program → Nat × Program
  | 0, program => (outside, program)
  | count + 1, program =>
    let (next, program) := upTo body greedy outside count program
    let (start, program) := body next program
    program.add (fork greedy start outside)

/-- A body that is run at least once and then again and again. -/
def repeated (body : Nat → Program → Nat × Program) (greedy : Bool) (next : Nat)
    (program : Program) : Nat × Nat × Program :=
  let (loop, program) := program.add .accept
  let (start, program) := body loop program
  (start, loop, program.setIfInBounds loop (fork greedy start next))

end Program

namespace Expression

mutual
/-- Puts an expression before a place of a program; gives where it starts. -/
def compile : Expression → Nat → Program → Nat × Program
  | empty, next, program => (next, program)
  | set chars, next, program => program.add (.set chars next)
  | look condition, next, program => program.add (.look condition next)
  | group index inner, next, program =>
    let (close, program) := program.add (.save (2 * index + 1) next)
    let (start, program) := compile inner close program
    program.add (.save (2 * index) start)
  | sequence parts, next, program => compileParts parts next program
  | choice options, next, program => compileOptions options next program
  | many least (some most) greedy inner, next, program =>
    let (start, program) := Program.upTo (compile inner) greedy next (most - least) program
    Program.times (compile inner) least start program
  | many 0 none greedy inner, next, program =>
    let (start, loop, program) := Program.repeated (compile inner) greedy next program
    if inner.mayBeEmpty then program.add (Program.fork greedy start next) else (loop, program)
  | many (least + 1) none greedy inner, next, program =>
    let (start, _, program) := Program.repeated (compile inner) greedy next program
    Program.times (compile inner) least start program

/-- Puts parts one after the other before a place. -/
def compileParts : List Expression → Nat → Program → Nat × Program
  | [], next, program => (next, program)
  | part :: rest, next, program =>
    let (next, program) := compileParts rest next program
    compile part next program

/-- Puts options before a place; earlier ones are preferred. -/
def compileOptions : List Expression → Nat → Program → Nat × Program
  | [], next, program => (next, program)
  | [option], next, program => compile option next program
  | option :: rest, next, program =>
    let (second, program) := compileOptions rest next program
    let (first, program) := compile option next program
    program.add (.split first second)
end

end Expression

end Terradoc.Pattern
