import K3sCluster.Go
import K3sCluster.Token
import K3sCluster.Effects
import K3sCluster.ClientAccess
import K3sCluster.Managed
import K3sCluster.Readiness
import K3sCluster.Bootstrap
import K3sCluster.Stamp
import K3sCluster.Pool
