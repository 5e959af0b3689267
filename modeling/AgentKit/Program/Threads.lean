import AgentKit.Program.Basic
/-!
# Threads of a server

A server makes its threads before it does anything else. Their number may be given by a variable of
the environment, and the size of their stacks by another one. A number that is no number of threads
is the caller's fault, and so is a stack that the machine cannot give: the program panics. A program
that runs out of memory for its threads is killed.
-/
namespace AgentKit.Program

/-- The variable that holds the number of threads. -/
def threadsVariable : String := "TOKIO_WORKER_THREADS"

/-- The variable that holds the size of a stack in octets. What is no number is passed over. -/
def stackVariable : String := "RUST_MIN_STACK"

/-- The memory of the machine in octets. -/
def memory : Nat := 0x800000000

/-- The number of octets that are kept for a thread apart from its stack, at the least. -/
def threadSize : Nat := 128

/-- The number of threads from which on no list of them has a size. -/
def threadLimit : Nat := 0x1000000000000000

/-- The number that a value of a variable spells. -/
def numberIn? (value : Bytes) : Option Nat :=
  (Utf8.toString? value).bind fun text => Numeral.word? text.toList

/-- How a program ends that asks for a number of threads, if it cannot have them. -/
def countObstacle? (value : Bytes) : Option Exit :=
  match numberIn? value with
  | none | some 0 => some abandoned
  | some number =>
    if threadLimit ≤ number then some abandoned
    else if memory ≤ threadSize * number then some .killed
    else none

/-- How a program ends that asks for a size of stacks, if it cannot have them. -/
def stackObstacle? (value : Bytes) : Option Exit :=
  match numberIn? value with
  | none => none
  | some size => if memory ≤ size then some abandoned else none

/-- How a program with threads ends in an environment that does not let it start. The number of
threads counts before their stacks. -/
def threadObstacle? (environment : Environment) : Option Exit :=
  match (environment.octets? threadsVariable).bind countObstacle? with
  | some exit => some exit
  | none => (environment.octets? stackVariable).bind stackObstacle?

end AgentKit.Program
