import NoteBridge.Page.Block
import NoteBridge.Page.Fault
import NoteBridge.Page.Property

/-!
Validity of a forest of blocks: only kinds that bear children carry some, table rows stand directly
under a table, and nothing else stands there. The first offence in document order is reported. A
page under another page may have one title.
-/

namespace NoteBridge.Page

mutual

def Block.check (insideTable : Bool) : Block → Except Fault Unit
  | ⟨_, kind, children⟩ =>
    if kind.isTableRow && !insideTable then .error .misplacedTableRow
    else if insideTable && !kind.isTableRow then .error (.tableChildNotRow kind.name)
    else if !children.isEmpty && !kind.bearsChildren then .error (.childrenNotAllowed kind.name)
    else checkAll kind.isTable children

def checkAll (insideTable : Bool) : List Block → Except Fault Unit
  | [] => .ok ()
  | block :: blocks =>
    match block.check insideTable with
    | .ok () => checkAll insideTable blocks
    | .error fault => .error fault

end

def check (blocks : List Block) : Except Fault Unit := checkAll false blocks

/-- What a page under another page keeps of its properties: its title, under the fixed name. -/
def PropertySet.forSubpage (properties : PropertySet) : Except Fault PropertySet :=
  match properties.titles with
  | [] => .ok ∅
  | [title] => .ok (Dict.empty.insert parentTitle title)
  | titles => .error (.multipleTitles titles.length)

end NoteBridge.Page
