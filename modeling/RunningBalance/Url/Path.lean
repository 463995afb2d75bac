import RunningBalance.Text.Blank
import RunningBalance.Text.Split
import RunningBalance.Url.Percent

/-!
# Paths

A path is a list of steps. A step of one dot stays where it is and a step of two dots goes back, so
neither is kept; the dots may be encoded. A path that is read has at least one step
(`read_ne_nil`).
-/

set_option autoImplicit false
set_option relaxedAutoImplicit false

namespace RunningBalance.Url.Path

/-- A step with encoded dots as dots. -/
def withDots : List Char → List Char
  | '%' :: '2' :: 'e' :: rest => '.' :: withDots rest
  | '%' :: '2' :: 'E' :: rest => '.' :: withDots rest
  | c :: rest => c :: withDots rest
  | [] => []

def stays (step : List Char) : Bool :=
  withDots step = ['.']

def goesBack (step : List Char) : Bool :=
  withDots step = ['.', '.']

/-- Whether a step is a letter with a mark that makes it a drive. -/
def isDrive : List Char → Bool
  | [letter, mark] => letter.isAlpha && (mark = ':' || mark = '|')
  | _ => false

/-- The steps without the last one, unless that is a drive. -/
def back (steps : List (List Char)) : List (List Char) :=
  if steps.getLast?.any isDrive then steps else steps.dropLast

/-- The steps after one more. -/
def follow (steps : List (List Char)) (step : List Char) : List (List Char) :=
  if stays step then steps
  else if goesBack step then back steps
  else steps ++ [step]

/-- The steps that remain of a path. One that ends by staying or going back ends at a slash. -/
def resolve (steps : List (List Char)) (last : List Char) : List (List Char) :=
  let path := follow (steps.foldl follow []) last
  if stays last || goesBack last then path ++ [[]] else path

theorem resolve_ne_nil (steps : List (List Char)) (last : List Char) :
    resolve steps last ≠ [] := by
  unfold resolve
  cases hs : stays last <;> cases hb : goesBack last <;> simp [follow, hs, hb]

def isSlash (c : Char) : Bool :=
  c = '/' || c = '\\'

/-- The steps of a path, which may start with a slash. -/
def read (text : List Char) : List (List Char) :=
  let text := text.map fun c ↦ if isSlash c then '/' else c
  let steps := Text.split '/' ((Text.after? ['/'] text).getD text)
  (resolve steps.dropLast (steps.getLast?.getD [])).map (Percent.encode Percent.inPath)

theorem read_ne_nil (text : List Char) : read text ≠ [] := by
  simpa [read] using resolve_ne_nil _ _

/-- The steps, with a slash in front of each. -/
def write (steps : List (List Char)) : List Char :=
  steps.flatMap ('/' :: ·)

end RunningBalance.Url.Path
