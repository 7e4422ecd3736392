import IndexerTypes.Distinct

/-! Networks that a project indexes, the table of chain ids behind their names, and the
environment entries that hold their RPC endpoints. -/

namespace IndexerTypes

inductive ChainKind where
  | evm
  deriving DecidableEq, Repr

namespace Network

/-- Network names and their chain ids. Two names may share one chain. -/
def chainIds : List (String × UInt64) := [
  ("mainnet", 1),
  ("ropsten", 3),
  ("rinkeby", 4),
  ("goerli", 5),
  ("optimism", 10),
  ("kovan", 42),
  ("bsc", 56),
  ("chapel", 97),
  ("poa-sokol", 77),
  ("poa-core", 99),
  ("xdai", 100),
  ("gnosis", 100),
  ("fuse", 122),
  ("matic", 137),
  ("fantom", 250),
  ("zksync-era", 324),
  ("optimism-goerli", 420),
  ("clover", 1023),
  ("polygon-zkevm", 1101),
  ("moonbeam", 1284),
  ("moonriver", 1285),
  ("mbase", 1287),
  ("fantom-testnet", 4002),
  ("base", 8453),
  ("holesky", 17000),
  ("celo-alfajores", 44787),
  ("celo", 42220),
  ("arbitrum-one", 42161),
  ("fuji", 43113),
  ("avalanche", 43114),
  ("linea", 59144),
  ("mumbai", 80001),
  ("blast-mainnet", 81457),
  ("base-sepolia", 84532),
  ("arbitrum-goerli", 421613),
  ("arbitrum-sepolia", 421614),
  ("scroll", 534352),
  ("sepolia", 11155111),
  ("optimism-sepolia", 11155420),
  ("aurora", 1313161554),
  ("aurora-testnet", 1313161555),
  ("harmony", 1666600000)]

def chainId? (name : String) : Option UInt64 := chainIds.lookup name

/-- The environment variable that holds the endpoint of a chain. -/
def rpcUrlVariable (chainId : UInt64) : String := "PONDER_RPC_URL_" ++ toString chainId.toNat

/-- The reference to the endpoint that a configuration carries in place of a URL. -/
def rpcUrlPlaceholder (chainId : UInt64) : String := "$\x7b" ++ rpcUrlVariable chainId ++ "\x7d"

end Network

structure Network where
  kind : ChainKind
  name : String
  chainId : UInt64
  rpcUrl : String
  deriving DecidableEq, Repr

namespace Network

/-- A network whose endpoint comes from the environment. -/
def ofChain (name : String) (chainId : UInt64) : Network :=
  ⟨.evm, name, chainId, rpcUrlPlaceholder chainId⟩

def environmentLine (chainId : UInt64) : String := rpcUrlVariable chainId ++ "=\"\"\n"

/-- One empty endpoint entry per chain, in network order. -/
def environment (networks : List Network) : String :=
  String.join ((Distinct.firsts id (networks.map chainId)).map environmentLine)

end Network

/-- Networks in order of first use, one per name. -/
structure NetworkSet where
  networks : List Network
  distinct : (networks.map Network.name).Nodup

namespace NetworkSet

def empty : NetworkSet := ⟨[], by simp⟩

def contains (s : NetworkSet) (name : String) : Bool :=
  Distinct.hasKey Network.name name s.networks

/-- A network whose name is taken changes nothing. -/
def insert (s : NetworkSet) (n : Network) : NetworkSet :=
  ⟨Distinct.insertNew Network.name s.networks n, Distinct.insertNew_nodup n s.distinct⟩

/-- The set with the network, and whether the network was new to it. -/
def add (s : NetworkSet) (n : Network) : NetworkSet × Bool := (s.insert n, !s.contains n.name)

end NetworkSet

end IndexerTypes
