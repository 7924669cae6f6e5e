import CloudInventory.Text.Percent

/-! Templates: text with `{name}` placeholders. The variables are replaced one after
another, each over the whole text that the earlier ones left. -/

namespace CloudInventory.Template

def placeholder (name : List Char) : List Char := '\x7b' :: (name ++ ['\x7d'])

/-- Replaces every occurrence from the left; `skip` characters belong to an occurrence that was
replaced already. -/
def replaceFrom (needle value : List Char) : Nat → List Char → List Char
  | _, [] => []
  | skip + 1, _ :: cs => replaceFrom needle value skip cs
  | 0, c :: cs =>
    if needle.isPrefixOf (c :: cs) then value ++ replaceFrom needle value (needle.length - 1) cs
    else c :: replaceFrom needle value 0 cs

def replaceAll (needle value cs : List Char) : List Char := replaceFrom needle value 0 cs

abbrev Variables := List (String × String)

/-- Values are written by `write` where they are put in. -/
def expandWith (write : List Char → List Char) (vars : Variables) (template : List Char) :
    List Char :=
  vars.foldl (fun cs v => replaceAll (placeholder v.1.toList) (write v.2.toList) cs) template

/-- For a path: values are percent-encoded. -/
def expandPath (template : String) (vars : Variables) : String :=
  String.ofList (expandWith Text.percentEncode vars template.toList)

/-- For a parameter, which is encoded with the query it becomes part of. -/
def expandParam (template : String) (vars : Variables) : String :=
  String.ofList (expandWith id vars template.toList)

end CloudInventory.Template
