import PagePress.Publishing.Operation
import PagePress.View.Page

/-!
# How results are shown
-/

namespace PagePress

def Customer.toJson (c : Customer) : Json :=
  .obj [("id", .str c.id.text), ("name", .str c.name), ("email", .str c.email)]

def Rendering.toJson : Rendering → Json
  | document made fromCache =>
    .obj [("status", .str "OK"), ("cache_hit", .bool fromCache), ("html", .str made.html)]
  | notFound =>
    .obj [("status", .str "NOT_FOUND"), ("cache_hit", .bool false),
      ("html", .str Markup.notFoundDocument)]

/-- The result of an operation that left the store as given. Only pages can be unfit to be shown. -/
def Result.toJson (store : Store) : Result → Checked Json
  | done => .ok .null
  | identifier id => .ok (.ofOption (id.map (·.text)))
  | truth b => .ok (.bool b)
  | count n => .ok (.int n)
  | customer c => .ok c.toJson
  | template t => .ok t.toJson
  | templates ts => .ok (.arr (ts.map Template.toJson))
  | previews ps => .ok (.arr (ps.map ElementPreview.toJson))
  | page p => (PageView.ofPage store p).map PageView.toJson
  | pages ps => (ps.mapM (PageItem.ofPage store)).map fun items => .arr (items.map PageItem.toJson)
  | element e => .ok e.toJson
  | elements es => .ok (.arr (es.map Element.toJson))
  | rendering r => .ok r.toJson

def Violation.toJson (v : Violation) : Json :=
  let step : Step → Json
    | .field name => .str name
    | .index i => .int i
  let message (s : String) : LooseText × Json := ("msg", .str s)
  .obj <|
    ("type", .str v.kind.code) :: ("loc", .arr (v.path.map step)) :: v.message.toList.map message

end PagePress
