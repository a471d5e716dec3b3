import BusLocator.Path.Basic
/-!
# Normal spelling

A path is normalised by walking its components with a stack, the innermost component on top: a name
is pushed, `.` changes nothing, and `..` takes a name back. At the root there is nothing to take
back, and above the start of a relative path `..` has to stay. The file system is not asked, so
links are not followed and nothing has to exist.
-/

namespace BusLocator.Path

/-- Where a component leads from the place that the stack describes, innermost component first. -/
def enter (stack : List Component) : Component → List Component
  | .root => [.root]
  | .here => stack
  | .name bytes => .name bytes :: stack
  | .up => match stack with
    | .name _ :: outer => outer
    | .root :: _ => stack
    | _ => .up :: stack

/-- The path with `.` and `..` worked out and single separators. The place where a relative path
starts is spelled `.`. -/
def normalize (p : Path) : Path :=
  match (p.components.foldl enter []).reverse with
  | [] => ofComponent .here
  | cs => ofComponents cs

/-- The normal spelling of a path as seen from the working directory. When there is no working
directory, a relative path stays relative. -/
def normalizeFrom (workingDir : Option Path) (p : Path) : Path :=
  if p.isAbsolute then p.normalize
  else match workingDir with
    | some dir => (dir.join p).normalize
    | none => p.normalize

end BusLocator.Path
