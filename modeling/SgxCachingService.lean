import SgxCachingService.Types
import SgxCachingService.Go
import SgxCachingService.Program
import SgxCachingService.Compare
import SgxCachingService.Fetch
import SgxCachingService.Cache
import SgxCachingService.Validation
import SgxCachingService.TcbStatus
import SgxCachingService.Push
import SgxCachingService.Refresh
import SgxCachingService.History
import SgxCachingService.RefreshHistory
import SgxCachingService.Concurrency
import SgxCachingService.Inputs
import SgxCachingService.Interference
import SgxCachingService.PushRace
import SgxCachingService.Provenance
import SgxCachingService.StatusQuery
