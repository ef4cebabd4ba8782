import SceneCompiler.Report

/-!
# The matrix stack

The stack holds the matrices of a chain of bones from the root of the model on. To draw with a bone,
what is not above it is taken off and the rest of its chain is put on. A chain that is longer than
the stack is refused before anything is written.
-/

namespace SceneCompiler

/-- What the matrix stack can do. -/
structure StackLimits where
  depth : Nat
  popsMany : Bool

/-- The bones whose matrices are on the stack, from the bottom. -/
abbrev BoneStack := List BoneId

namespace BoneStack

def top? (stack : BoneStack) : Option BoneId := stack.getLast?

/-- The length of the longest common start of two lists of bones. -/
def commonLength (stack path : List BoneId) : Nat :=
  ((stack.zip path).takeWhile fun pair => pair.1 = pair.2).length

/-- The commands that take matrices off the stack. -/
def pops (limits : StackLimits) (count : Nat) : List Command :=
  if count = 0 then []
  else if limits.popsMany then [.popMatrix count]
  else List.replicate count (.popMatrix 1)

/-- The commands that put the matrix of a bone on the stack. -/
def push (skeleton : Skeleton) (bone : BoneId) : List Command :=
  [.comment (skeleton.nameOf (some bone)), .pushMatrix bone]

/-- The commands that bring a chain of bones onto the stack. -/
def moves (skeleton : Skeleton) (limits : StackLimits) (stack : BoneStack) (path : List BoneId) :
    List Command :=
  let kept := commonLength stack path
  pops limits (stack.length - kept) ++ (path.drop kept).flatMap (push skeleton)

def moveTo (skeleton : Skeleton) (limits : StackLimits) (stack : BoneStack)
    (target : Option BoneId) : Except CompileError (List Command × BoneStack) :=
  let path := skeleton.pathFromRoot target
  if limits.depth < path.length then
    .error (.matrixStackOverflow (path.map fun bone => skeleton.nameOf (some bone)) limits.depth)
  else .ok (moves skeleton limits stack path, path)

end BoneStack

end SceneCompiler
