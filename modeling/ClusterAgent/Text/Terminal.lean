/-!
Texts for terminals that show no styles.
-/
namespace ClusterAgent.Text

/-- What follows a style sequence whose introducer has been read: digits, semicolons and question
marks, and then one letter. -/
def afterStyle? : List Char → Option (List Char)
  | [] => none
  | c :: rest =>
    if c == ';' || c == '?' || c.isDigit then afterStyle? rest
    else if c.isAlpha then some rest
    else none

/-- Leaves out style sequences; `skip` characters of one are still to be passed over. -/
def unstyledFrom (skip : Nat) : List Char → List Char
  | [] => []
  | c :: rest =>
    if skip ≠ 0 then unstyledFrom (skip - 1) rest
    else match c, rest with
      | '\x1b', '[' :: more =>
        match afterStyle? more with
        | some after => unstyledFrom (1 + (more.length - after.length)) rest
        | none => c :: unstyledFrom 0 rest
      | _, _ => c :: unstyledFrom 0 rest

/-- A text without its style sequences. -/
def unstyled (s : String) : String := String.ofList (unstyledFrom 0 s.toList)

end ClusterAgent.Text
