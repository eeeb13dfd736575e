/-!
# Splitting texts
-/

set_option autoImplicit false

namespace Logbook

/-- The characters before the first that satisfies `p`, and those behind it. -/
def splitAt? (p : Char → Bool) (cs : List Char) : Option (List Char × List Char) :=
  match cs.dropWhile fun c => !p c with
  | [] => none
  | _ :: rest => some (cs.takeWhile (fun c => !p c), rest)

/-- The characters between those that satisfy `p`; there is always one part. -/
def splitBy (p : Char → Bool) : List Char → List (List Char)
  | [] => [[]]
  | c :: cs =>
    match splitBy p cs with
    | [] => [[c]]
    | part :: parts => if p c then [] :: part :: parts else (c :: part) :: parts

/-- What follows a given beginning. -/
def afterStart? (start : List Char) (cs : List Char) : Option (List Char) :=
  if start.isPrefixOf cs then some (cs.drop start.length) else none

/-- What precedes a given end. -/
def beforeEnd? (stop : List Char) (cs : List Char) : Option (List Char) :=
  if stop.isSuffixOf cs then some (cs.take (cs.length - stop.length)) else none

end Logbook
