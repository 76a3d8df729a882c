/-
Pages from their descriptions.
-/
import Criteria.Config.Basic
import Criteria.Input.Page
import Criteria.Page.Basic

namespace Criteria.PageInput

/-- The page that is described: the first page where no number is given, with all rows where no
size is given. -/
def toPage (input : PageInput) : Page where
  active := input.active.getD true
  number := input.number.getD 1
  size := input.size.getD 0

/-- The page that is described, of a size that the configuration allows. -/
def toPageWithin (input : PageInput) (sizes : PageSizes) : Page where
  active := input.active.getD true
  number := input.number.getD 1
  size := sizes.effective input.size

end Criteria.PageInput
