import WidgetTree.Json.Problem
import WidgetTree.Json.Reader

namespace WidgetTree.Json

/-- Decodes a text in JSON. It is decoded while it is read: whichever problem comes first in the
text is reported, and what stands behind the document is looked at last. -/
def decodeText {α : Type} (decode : Document → Except Problem α) (text : String) :
    Except Problem α := do
  let source := Source.ofText nestingLimit text
  let result ← decode source.document
  liftFault (closed source.trailing)
  return result

end WidgetTree.Json

namespace WidgetTree.Value

/-- The value that a text in JSON spells. -/
def ofText? (text : String) : Except Json.Problem Value :=
  Json.decodeText (fun document => Json.liftFault document.value?) text

end WidgetTree.Value
