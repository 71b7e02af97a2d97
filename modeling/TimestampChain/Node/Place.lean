/-!
# Places and paths

A place is the row of steps from a directory to something in it. A path is text with slashes between
its steps, which may also stay where one is or lead up. Where a path leads depends on what is on the
way, so a path is followed step by step.
-/

namespace TimestampChain

/-- The steps from the directory to a place. A place outside starts with a step up or at the
root. -/
abbrev Place := List String

namespace Place

def nameLimit : Nat := 255

def pathLimit : Nat := 4095

def start (path : String) : Place := if path.startsWith "/" then ["/"] else []

def steps (path : String) : List String := path.splitOn "/"

def stays (step : String) : Bool := step = "" || step = "."

def plain (path : String) : String :=
  let front := if path.startsWith "/" then "/" else "./"
  front ++ String.intercalate "/" ((steps path).filter fun step => !stays step)

/-- Whether a text can be a path: it is not empty, not too long, and has no zero character. -/
def isPath (path : String) : Bool :=
  path ≠ "" && path.utf8ByteSize ≤ pathLimit && !path.toList.contains '\x00'

/-- Whether a step is a name: it does not stay or lead up, and it is not too long. -/
def isName (step : String) : Bool :=
  !stays step && step ≠ ".." && step.utf8ByteSize ≤ nameLimit

/-- Whether a place is there in any case: the directory itself, what it lies in, or the root. -/
def isGiven (place : Place) : Bool := place = ["/"] || place.all (· = "..")

def parent (place : Place) : Place :=
  if place = ["/"] then place
  else if place.all (· = "..") then place ++ [".."]
  else place.dropLast

def isWithin (place top : Place) : Bool :=
  top.isPrefixOf place && !((place.drop top.length).head?.any fun step => step = ".." || step = "/")

end Place

end TimestampChain
