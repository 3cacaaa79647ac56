import NotebookKernel.Json.Reader

/-!
Passing over a value that nobody asks for. Its grammar is checked, but not the
depth, the size of numbers or the pairing of surrogates.
-/

namespace NotebookKernel.Json

def skimEscape : List Char → Except Stop (List Char)
  | [] => .error (.behind .endInString [])
  | c :: rest =>
    if c = 'u' then (hex4 rest).map (·.2)
    else if (shortEscape? c).isSome then .ok rest
    else .error (.next .invalidEscape (c :: rest))

theorem skimEscape_shorter {cs rest : List Char} (h : skimEscape cs = .ok rest) :
    rest.length < cs.length := by
  unfold skimEscape at h
  split at h
  · contradiction
  · split at h
    · rename_i c tail _
      cases hread : hex4 tail with
      | error stop => simp [hread, Except.map] at h
      | ok found =>
        obtain ⟨n, left⟩ := found
        simp only [hread, Except.map, Except.ok.injEq] at h
        subst h
        have := hex4_shorter hread
        simp only [List.length_cons]
        omega
    · split at h
      · injection h with h
        subst h
        simp
      · contradiction

/-- From behind the opening quote to behind the closing one. -/
def skimString : List Char → Except Stop (List Char)
  | [] => .error (.behind .endInString [])
  | c :: rest =>
    if c = '"' then .ok rest
    else if c = '\\' then
      match h : skimEscape rest with
      | .error stop => .error stop
      | .ok rest' =>
        have := skimEscape_shorter h
        skimString rest'
    else if c < ' ' then .error (.behind .controlCharacter (c :: rest))
    else skimString rest
termination_by cs => cs.length

def skimExponent (cs : List Char) : Except Stop (List Char) :=
  let cs := match cs with
    | '+' :: rest => rest
    | '-' :: rest => rest
    | _ => cs
  if startsWithDigit cs then .ok (cs.dropWhile isDigit)
  else .error (.next .invalidNumber cs)

def skimScale (cs : List Char) : Except Stop (List Char) :=
  match cs with
  | c :: rest => if c = 'e' ∨ c = 'E' then skimExponent rest else .ok cs
  | [] => .ok []

def skimFraction (cs : List Char) : Except Stop (List Char) :=
  match cs with
  | '.' :: rest =>
    if startsWithDigit rest then skimScale (rest.dropWhile isDigit)
    else .error (.next .invalidNumber rest)
  | _ => skimScale cs

def skimNumber (cs : List Char) : Except Stop (List Char) :=
  match cs with
  | [] => .error (.next .invalidNumber [])
  | c :: rest =>
    if c = '0' then
      if startsWithDigit rest then .error (.next .invalidNumber rest) else skimFraction rest
    else if isDigit c then skimFraction (rest.dropWhile isDigit)
    else .error (.next .invalidNumber (c :: rest))

mutual

def skimValue : Nat → List Char → Except Stop (List Char)
  | 0, cs => .error (.next .recursionLimit cs)
  | fuel + 1, cs =>
    match skip cs with
    | [] => .error (.next .endInValue [])
    | c :: rest =>
      if c = 'n' then keyword ['u', 'l', 'l'] rest
      else if c = 't' then keyword ['r', 'u', 'e'] rest
      else if c = 'f' then keyword ['a', 'l', 's', 'e'] rest
      else if c = '"' then skimString rest
      else if c = '-' then skimNumber rest
      else if isDigit c then skimNumber (c :: rest)
      else if c = '[' then
        match skip rest with
        | [] => .error (.next .endInList [])
        | ']' :: rest => .ok rest
        | rest => skimItems fuel rest
      else if c = '{' then
        match skip rest with
        | '}' :: rest => .ok rest
        | rest => skimMembers fuel rest
      else .error (.next .expectedValue (c :: rest))

def skimItems : Nat → List Char → Except Stop (List Char)
  | 0, cs => .error (.next .recursionLimit cs)
  | fuel + 1, cs =>
    match skimValue fuel cs with
    | .error stop => .error stop
    | .ok rest =>
      match skip rest with
      | [] => .error (.next .endInList [])
      | ']' :: rest => .ok rest
      | ',' :: rest => skimItems fuel rest
      | rest => .error (.next .expectedCommaOrListEnd rest)

def skimMembers : Nat → List Char → Except Stop (List Char)
  | 0, cs => .error (.next .recursionLimit cs)
  | fuel + 1, cs =>
    match skip cs with
    | [] => .error (.next .endInObject [])
    | '"' :: rest =>
      match skimString rest with
      | .error stop => .error stop
      | .ok rest =>
        match colon rest with
        | .error stop => .error stop
        | .ok rest =>
          match skimValue fuel rest with
          | .error stop => .error stop
          | .ok rest =>
            match skip rest with
            | [] => .error (.next .endInObject [])
            | '}' :: rest => .ok rest
            | ',' :: rest => skimMembers fuel rest
            | rest => .error (.next .expectedCommaOrObjectEnd rest)
    | rest => .error (.next .keyMustBeString rest)

end

def skim (cs : List Char) : Except Stop (List Char) :=
  skimValue (fuelFor cs) cs

end NotebookKernel.Json
