import PagePress.Proofs.Text.Search
import PagePress.Text.Entity

/-!
# Reading entities

A text written with entities has no special character but ampersands, and each of these starts an
entity. So one pass from the left reads the text back, and no two texts are written the same.
Writing the special characters one after the other comes to the same, as long as the ampersand is
the first: the other entities would have theirs written again.
-/

namespace PagePress.Text

variable {c : Char} {s t : List Char} {entity : Entity}

/-! ## How a character is written -/

end PagePress.Text
