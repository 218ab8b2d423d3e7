import Mautrix.Id
import Mautrix.Backfill.Types
import Mautrix.Backfill.Cutoff
import Mautrix.Backfill.Batch
import Mautrix.Backfill.BatchRecords
import Mautrix.Backfill.ThreadChain
import Mautrix.Backfill.BatchSpec
import Mautrix.Backfill.Legacy
import Mautrix.Backfill.Backfill
import Mautrix.Commands.Handler
import Mautrix.Hicli.Client
import Mautrix.Hicli.Crypto
import Mautrix.Hicli.Send
