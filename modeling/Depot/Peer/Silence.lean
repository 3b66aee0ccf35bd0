import Depot.Dialogue
import Depot.Disk.Basic
import Depot.Http.Api

/-!
# A network on which nobody answers

The other side of a client that reads its files from a disk and whose requests reach nobody.  What can be
told about a request is what is wrong with it, or else the address at which nobody answered.
-/

namespace Depot.Silence

/-- The disk answers, the network does not. -/
def environment (api : Api) (token : Option String) : Dialogue.Environment Disk where
  send request disk := (.error (api.attempt token request), disk)
  read source start stop disk := (source.readRange disk.contents? start stop, disk)

end Depot.Silence
