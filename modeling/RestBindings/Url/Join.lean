import RestBindings.Url.Split

/-!
# Resolving a reference against a URL

A reference without a scheme is completed from the URL of the page that it stands on.  Single and
double dots in its path are steps that stay and steps that go up.
-/

namespace RestBindings.Url

/-- The parts of a reference. -/
structure Reference where
  scheme : List Char
  /-- The authority, if two slashes announce one. -/
  authority : Option (List Char)
  path : List Char
  /-- The query with its question mark. -/
  query : List Char
  /-- The fragment with its mark. -/
  fragment : List Char

namespace Reference

/-- The parts of a text. -/
def ofText (text : List Char) : Reference :=
  let (scheme, rest) := splitScheme text
  let fragment := rest.dropWhile (· != '#')
  let rest := Text.before '#' rest
  let query := rest.dropWhile (· != '?')
  let rest := Text.before '?' rest
  match rest with
  | '/' :: '/' :: tail =>
    ⟨scheme, some (tail.takeWhile (· != '/')), tail.dropWhile (· != '/'), query, fragment⟩
  | path => ⟨scheme, none, path, query, fragment⟩

/-- The text of a reference. -/
def text (r : Reference) : List Char :=
  let scheme := if r.scheme.isEmpty then [] else r.scheme ++ [':']
  let authority := match r.authority with
    | some a => '/' :: '/' :: a
    | none => []
  let path :=
    if r.authority.isSome && !r.path.isEmpty && r.path.head? != some '/' then '/' :: r.path
    else r.path
  scheme ++ authority ++ path ++ r.query ++ r.fragment

end Reference

/-- The steps of a path that remain when dots are resolved, the last one first. -/
def resolveSteps : List (List Char) → List (List Char) → List (List Char)
  | taken, [] => taken
  | taken, step :: rest =>
    if step = ['.', '.'] then resolveSteps taken.tail rest
    else if step = ['.'] then resolveSteps taken rest
    else resolveSteps (step :: taken) rest

/-- A path without dots; one that ends with dots ends with a slash. -/
def resolveDots (steps : List (List Char)) : List Char :=
  let ended := steps.getLast? == some ['.'] || steps.getLast? == some ['.', '.']
  let resolved := (resolveSteps [] steps).reverse ++ (if ended then [[]] else [])
  match Text.joinWith ['/'] resolved with
  | [] => ['/']
  | path => path

/-- A list without the empty elements that are neither first nor last. -/
def withoutInnerGaps (steps : List (List Char)) : List (List Char) :=
  match steps with
  | first :: second :: rest =>
    first :: ((second :: rest).dropLast.filter (!·.isEmpty)) ++ [(second :: rest).getLast?.getD []]
  | _ => steps

/-- A path relative to another one. -/
def joinPaths (base path : List Char) : List Char :=
  if path.head? = some '/' then resolveDots (Text.splitOn '/' path)
  else
    let steps := Text.splitOn '/' base
    let front := if steps.getLast? = some [] then steps else steps.dropLast
    resolveDots (withoutInnerGaps (front ++ Text.splitOn '/' path))

/-- The URL that a reference on the page of a URL denotes.  Where it has no fragment, that of the
page stays. -/
def join (base reference : List Char) : List Char :=
  let page := Reference.ofText base
  let r := Reference.ofText reference
  let keep (r : Reference) : List Char :=
    (if r.fragment.length ≤ 1 then { r with fragment := page.fragment } else r).text
  if !r.scheme.isEmpty then keep r
  else if r.authority.any (!·.isEmpty) then keep { r with scheme := page.scheme }
  else
    let r := { r with scheme := page.scheme, authority := page.authority }
    if r.path.isEmpty then
      keep { r with path := page.path, query := if r.query.isEmpty then page.query else r.query }
    else keep { r with path := joinPaths page.path r.path }

end RestBindings.Url
